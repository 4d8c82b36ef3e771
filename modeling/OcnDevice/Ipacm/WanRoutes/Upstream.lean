import OcnDevice.Ipacm.WanRoutes.Events

/-!
# The upstream of a family

Seen from one family, the instances and what they share are an `Upstream`: which interfaces are
active, whether `wan_up` is set, and which interface was last reported.  The visit of an instance
does one of three things to it (`React`), and an event does them in the order of the instances, one
after the other (`upstream_process`).

An upstream is right (`Upstream.Right`) if there is none at all, or all three agree on the interface
that has the default route of the framework (`Upstream.Right.cases`).
-/

namespace Ipacm.WanRoutes

/-- What there is to know of a family. -/
@[ext]
structure Upstream where
  actives : Set ℕ
  wanUp : Bool
  told : Option ℕ

/-- **The upstream is right**: `wan_up` is set just while an interface is reported, the interface
that is reported is the active one, and it is the one that has the default route. -/
structure Upstream.Right (route : Option ℕ) (u : Upstream) : Prop where
  flag : u.wanUp = u.told.isSome
  told : ∀ n, u.told = some n ↔ n ∈ u.actives
  only : ∀ n ∈ u.actives, route = some n

/-- What the visit of an instance does to the upstream. -/
inductive React
  | keep
  | up
  | down
  deriving DecidableEq, Repr

/-- The upstream after the visit of an instance. -/
def React.next (n : ℕ) : React → Upstream → Upstream
  | .keep, u => u
  | .up, u => ⟨insert n u.actives, true, some n⟩
  | .down, u => ⟨u.actives \ {n}, false, none⟩

/-- The view after the visit of an instance. -/
def React.view (h : IpType) (a : WanAt) : React → Bool × Bool × Option ℕ
  | .keep => WanRoutes.view h a
  | .up => upView a.1
  | .down => downView

/-- What instances do to the upstream, one after the other. -/
def reacts (react : WanIface → React) (l : List WanIface) (u : Upstream) : Upstream :=
  l.foldl (fun u x => (react x).next x.ipaIfNum u) u

/-- The upstream of a family. -/
def WanSys.upstream (s : WanSys) (h : IpType) : Upstream where
  actives := {n | ∃ x ∈ s.ifaces, x.ipaIfNum = n ∧ x.active h = true}
  wanUp := s.shared.wanUp h
  told := told h s.shared.posted

/-! ## Right upstreams -/

namespace Upstream

variable {u : Upstream} {n m : ℕ} {r : Option ℕ}

/-- No interface is up. -/
def nowhere : Upstream := ⟨∅, false, none⟩

/-- One interface is up. -/
def via (n : ℕ) : Upstream := ⟨{n}, true, some n⟩

lemma nowhere_right (r : Option ℕ) : nowhere.Right r :=
  ⟨rfl, by simp [nowhere], by simp [nowhere]⟩

lemma via_right : (via n).Right r ↔ r = some n := by
  constructor
  · intro h
    exact h.only n rfl
  · rintro rfl
    exact ⟨rfl, by simp [via, eq_comm], by simp [via]⟩

/-- **The two kinds of upstreams that are right.** -/
lemma Right.cases (h : u.Right r) : u = nowhere ∨ ∃ n, r = some n ∧ u = via n := by
  cases ht : u.told with
  | none =>
      refine Or.inl (Upstream.ext (Set.eq_empty_of_forall_notMem fun n hn => ?_) ?_ ht)
      · rw [(h.told n).mpr hn] at ht
        cases ht
      · rw [h.flag, ht]
        rfl
  | some n =>
      have hn : n ∈ u.actives := (h.told n).mp ht
      refine Or.inr ⟨n, h.only n hn, Upstream.ext (Set.ext fun m => ?_) ?_ ht⟩
      · rw [← h.told m, ht]
        exact ⟨fun e => (Option.some.inj e).symm, fun e => congrArg some (Eq.symm e)⟩
      · rw [h.flag, ht]
        rfl

lemma next_up_nowhere : React.up.next n nowhere = via n := by
  simp [React.next, nowhere, via]

lemma next_down_via : React.down.next n (via n) = nowhere := by
  simp [React.next, nowhere, via]

/-- An interface that goes up is the upstream just if it has the default route. -/
lemma Right.up_iff (h : u.Right r) (hn : n ∉ u.actives) :
    (React.up.next n u).Right r ↔ r = some n := by
  rcases h.cases with rfl | ⟨m, rfl, rfl⟩
  · rw [next_up_nowhere, via_right]
  · constructor
    · intro h'
      exact h'.only n (Set.mem_insert n _)
    · intro hm
      exact absurd (Option.some.inj hm).symm hn

/-- When the upstream goes down there is none, wherever the default route is. -/
lemma Right.down (h : u.Right r) (hn : n ∈ u.actives) (r' : Option ℕ) :
    (React.down.next n u).Right r' := by
  rcases h.cases with rfl | ⟨m, rfl, rfl⟩
  · exact hn.elim
  · obtain rfl := Set.mem_singleton_iff.mp hn
    rw [next_down_via]
    exact nowhere_right r'

end Upstream

/-! ## Instances one after the other -/

section Reacts

variable {react : WanIface → React} {l l' : List WanIface} {x : WanIface} {u : Upstream}

lemma reacts_append : reacts react (l ++ l') u = reacts react l' (reacts react l u) :=
  List.foldl_append

lemma reacts_cons : reacts react (x :: l) u = reacts react l ((react x).next x.ipaIfNum u) := rfl

lemma reacts_keep (hk : ∀ y ∈ l, react y = .keep) : reacts react l u = u := by
  induction l generalizing u with
  | nil => rfl
  | cons y l ih =>
      rw [reacts_cons, hk y (List.mem_cons_self ..)]
      exact ih fun z hz => hk z (List.mem_cons_of_mem _ hz)

/-- Only one instance does something. -/
lemma reacts_one (hl : ∀ y ∈ l, react y = .keep) (hl' : ∀ y ∈ l', react y = .keep) :
    reacts react (l ++ x :: l') u = (react x).next x.ipaIfNum u := by
  rw [reacts_append, reacts_keep hl, reacts_cons, reacts_keep hl']

end Reacts

section Dispatch

variable {visit : WanAt → WanAt} {l l' pre : List WanIface} {x y : WanIface} {g : WanShared}
  {h : IpType} {b : WanAt} {n : ℕ} {s : WanSys}

lemma mem_actives_mid : n ∈ (WanSys.upstream ⟨l ++ x :: l', g⟩ h).actives ↔
    (x.ipaIfNum = n ∧ x.active h = true) ∨ n ∈ (WanSys.upstream ⟨l ++ l', g⟩ h).actives := by
  simp only [WanSys.upstream, Set.mem_ofPred_eq, List.mem_append, List.mem_cons]
  constructor
  · rintro ⟨y, hy | rfl | hy, hn⟩
    · exact Or.inr ⟨y, Or.inl hy, hn⟩
    · exact Or.inl hn
    · exact Or.inr ⟨y, Or.inr hy, hn⟩
  · rintro (hn | ⟨y, hy | hy, hn⟩)
    · exact ⟨x, Or.inr (Or.inl rfl), hn⟩
    · exact ⟨y, Or.inl hy, hn⟩
    · exact ⟨y, Or.inr (Or.inr hy), hn⟩

/-- Instances have numbers of their own. -/
lemma num_ne_of_nodup (hn : ((l ++ x :: l').map WanIface.ipaIfNum).Nodup) (hy : y ∈ l ++ l') :
    y.ipaIfNum ≠ x.ipaIfNum := by
  rw [List.map_append, List.map_cons, List.nodup_middle, List.nodup_cons, ← List.map_append] at hn
  intro e
  exact hn.1 (e ▸ List.mem_map_of_mem hy)

lemma eq_of_num (hn : (l.map WanIface.ipaIfNum).Nodup) (hx : x ∈ l) (hy : y ∈ l)
    (e : x.ipaIfNum = y.ipaIfNum) : x = y :=
  List.inj_on_of_nodup_map hn hx hy e

/-- **One visit.** -/
lemma upstream_visit {r : React} (hn : ((pre ++ x :: l).map WanIface.ipaIfNum).Nodup)
    (hnum : b.1.ipaIfNum = x.ipaIfNum) (hv : view h b = r.view h (x, g)) :
    WanSys.upstream ⟨pre ++ b.1 :: l, b.2⟩ h =
      r.next x.ipaIfNum (WanSys.upstream ⟨pre ++ x :: l, g⟩ h) := by
  have hother : ∀ g', x.ipaIfNum ∉ (WanSys.upstream ⟨pre ++ l, g'⟩ h).actives := fun g' => by
    rintro ⟨y, hy, e, -⟩
    exact num_ne_of_nodup hn hy e
  have hact : ∀ m, m ∈ (WanSys.upstream ⟨pre ++ b.1 :: l, b.2⟩ h).actives ↔
      (x.ipaIfNum = m ∧ (r.view h (x, g)).1 = true) ∨
        m ∈ (WanSys.upstream ⟨pre ++ l, g⟩ h).actives := fun m => by
    rw [mem_actives_mid, hnum, view_active hv]
    exact Iff.rfl
  cases r with
  | keep =>
      refine Upstream.ext (Set.ext fun m => ?_) (view_wanUp hv) (view_told hv)
      rw [hact, React.next, mem_actives_mid]
      exact Iff.rfl
  | up =>
      refine Upstream.ext (Set.ext fun m => ?_) (view_wanUp hv) (view_told hv)
      rw [hact, React.next, Set.mem_insert_iff, mem_actives_mid]
      simp only [React.view, upView, and_true, eq_comm (a := m)]
      tauto
  | down =>
      refine Upstream.ext (Set.ext fun m => ?_) (view_wanUp hv) (view_told hv)
      rw [hact, React.next, Set.mem_sdiff, mem_actives_mid, Set.mem_singleton_iff]
      simp only [React.view, downView, Bool.false_eq_true, and_false, false_or]
      constructor
      · intro hm
        refine ⟨Or.inr hm, ?_⟩
        rintro rfl
        exact hother g hm
      · rintro ⟨⟨e, -⟩ | hm, hne⟩
        · exact absurd e.symm hne
        · exact hm

/-- **An event, as a family sees it**: what the instances do, one after the other. -/
lemma upstream_dispatch (pre : List WanIface) {react : WanIface → React}
    (hn : ((pre ++ l).map WanIface.ipaIfNum).Nodup)
    (hr : ∀ x ∈ l, ∀ g, (visit (x, g)).1.ipaIfNum = x.ipaIfNum ∧
      view h (visit (x, g)) = (react x).view h (x, g)) :
    WanSys.upstream ⟨pre ++ (dispatch visit l g).1, (dispatch visit l g).2⟩ h =
      reacts react l (WanSys.upstream ⟨pre ++ l, g⟩ h) := by
  induction l generalizing pre g with
  | nil => rfl
  | cons x l ih =>
      obtain ⟨hnum, hv⟩ := hr x (List.mem_cons_self ..) g
      have hn' : ((pre ++ [(visit (x, g)).1] ++ l).map WanIface.ipaIfNum).Nodup := by
        simpa [hnum] using hn
      have hrest := ih _ hn' (g := (visit (x, g)).2) fun y hy => hr y (List.mem_cons_of_mem _ hy)
      rw [reacts_cons, ← upstream_visit hn hnum hv, dispatch]
      simpa using hrest

/-- The instances have numbers of their own, and each is sound. -/
structure Kept (s : WanSys) : Prop where
  nodup : (s.ifaces.map WanIface.ipaIfNum).Nodup
  sound : ∀ x ∈ s.ifaces, Sound x

lemma upstream_process {react : WanIface → React} (H : Kept s)
    (hr : ∀ x ∈ s.ifaces, ∀ g, (visit (x, g)).1.ipaIfNum = x.ipaIfNum ∧
      view h (visit (x, g)) = (react x).view h (x, g)) :
    (s.process visit).upstream h = reacts react s.ifaces (s.upstream h) :=
  upstream_dispatch [] H.nodup hr

lemma dispatch_keeps (hv : ∀ x ∈ l, ∀ g,
    (visit (x, g)).1.ipaIfNum = x.ipaIfNum ∧ Sound (visit (x, g)).1) :
    (dispatch visit l g).1.map WanIface.ipaIfNum = l.map WanIface.ipaIfNum ∧
      ∀ y ∈ (dispatch visit l g).1, Sound y := by
  induction l generalizing g with
  | nil => exact ⟨rfl, fun y hy => by simp [dispatch] at hy⟩
  | cons x l ih =>
      obtain ⟨hnum, hs⟩ := hv x (List.mem_cons_self ..) g
      obtain ⟨hnums, hrest⟩ := ih (g := (visit (x, g)).2) fun y hy =>
        hv y (List.mem_cons_of_mem _ hy)
      rw [dispatch]
      refine ⟨by simp [hnum, hnums], ?_⟩
      simpa using ⟨hs, hrest⟩

/-- An event that leaves the numbers alone and keeps each instance sound. -/
lemma Kept.process (H : Kept s) (hv : ∀ x ∈ s.ifaces, ∀ g,
    (visit (x, g)).1.ipaIfNum = x.ipaIfNum ∧ Sound (visit (x, g)).1) : Kept (s.process visit) := by
  obtain ⟨hnums, hsound⟩ := dispatch_keeps (g := s.shared) hv
  exact ⟨hnums ▸ H.nodup, hsound⟩

lemma Kept.split (H : Kept s) (hx : x ∈ s.ifaces) :
    ∃ l l', s.ifaces = l ++ x :: l' ∧ ∀ y ∈ l ++ l', y.ipaIfNum ≠ x.ipaIfNum := by
  obtain ⟨l, l', e⟩ := List.append_of_mem hx
  exact ⟨l, l', e, fun y hy => num_ne_of_nodup (e ▸ H.nodup) hy⟩

lemma Kept.mem_actives (H : Kept s) (hx : x ∈ s.ifaces) :
    x.ipaIfNum ∈ (s.upstream h).actives ↔ x.active h = true := by
  constructor
  · rintro ⟨y, hy, e, ha⟩
    rwa [eq_of_num H.nodup hy hx e] at ha
  · exact fun ha => ⟨x, hx, rfl, ha⟩

/-! ## Events for one instance -/

/-- **An event for one instance, as a family sees it.** -/
lemma upstream_processFor {r : React} (H : Kept s) (hx : x ∈ s.ifaces)
    (hr : ∀ g, (visit (x, g)).1.ipaIfNum = x.ipaIfNum ∧
      view h (visit (x, g)) = r.view h (x, g)) :
    (s.processFor x.ipaIfNum visit).upstream h = r.next x.ipaIfNum (s.upstream h) := by
  obtain ⟨l, l', e, hne⟩ := H.split hx
  let react : WanIface → React := fun y => if y.ipaIfNum = x.ipaIfNum then r else .keep
  have hone : reacts react s.ifaces (s.upstream h) = r.next x.ipaIfNum (s.upstream h) := by
    rw [e, reacts_one]
    · exact congrArg (fun r => React.next x.ipaIfNum r (s.upstream h)) (if_pos rfl)
    · exact fun y hy => if_neg (hne y (List.mem_append_left _ hy))
    · exact fun y hy => if_neg (hne y (List.mem_append_right _ hy))
  rw [← hone, WanSys.processFor]
  refine upstream_process H fun y hy g => ?_
  by_cases hyx : y.ipaIfNum = x.ipaIfNum
  · obtain rfl := eq_of_num H.nodup hy hx hyx
    simpa [react] using hr g
  · simp [react, hyx, React.view]

lemma dispatch_quiet (hq : ∀ y ∈ l, ∀ g, visit (y, g) = (y, g)) :
    dispatch visit l g = (l, g) := by
  induction l generalizing g with
  | nil => rfl
  | cons y l ih =>
      rw [dispatch, hq y (List.mem_cons_self ..), ih fun z hz => hq z (List.mem_cons_of_mem _ hz)]

lemma dispatch_append :
    dispatch visit (l ++ l') g = ((dispatch visit l g).1 ++ (dispatch visit l' (dispatch visit l g).2).1,
      (dispatch visit l' (dispatch visit l g).2).2) := by
  induction l generalizing g with
  | nil => rfl
  | cons y l ih => rw [List.cons_append, dispatch, dispatch, ih]; rfl

/-- The event does not concern any instance. -/
lemma processFor_absent (hx : ∀ x ∈ s.ifaces, x.ipaIfNum ≠ n) : s.processFor n visit = s := by
  rw [WanSys.processFor, WanSys.process, dispatch_quiet]
  exact fun y hy g => if_neg (hx y hy)

/-- The event concerns one instance, and is passed over by the others. -/
lemma processFor_split (hne : ∀ y ∈ l ++ l', y.ipaIfNum ≠ x.ipaIfNum) :
    WanSys.processFor ⟨l ++ x :: l', g⟩ x.ipaIfNum visit =
      ⟨l ++ (visit (x, g)).1 :: l', (visit (x, g)).2⟩ := by
  let visit' : WanAt → WanAt := fun a => if a.1.ipaIfNum = x.ipaIfNum then visit a else a
  have hq : ∀ y ∈ l ++ l', ∀ g, visit' (y, g) = (y, g) := fun y hy g => if_neg (hne y hy)
  have hl : ∀ g, dispatch visit' l g = (l, g) := fun g =>
    dispatch_quiet fun y hy => hq y (List.mem_append_left _ hy)
  have hl' : ∀ g, dispatch visit' l' g = (l', g) := fun g =>
    dispatch_quiet fun y hy => hq y (List.mem_append_right _ hy)
  have hx : visit' (x, g) = visit (x, g) := if_pos rfl
  have hall : dispatch visit' (l ++ x :: l') g =
      (l ++ (visit (x, g)).1 :: l', (visit (x, g)).2) := by
    rw [dispatch_append, hl, dispatch, hx, hl']
  rw [WanSys.processFor, WanSys.process]
  exact congrArg (fun r : List WanIface × WanShared => WanSys.mk r.1 r.2) hall

lemma Kept.processFor (H : Kept s) (hv : ∀ x ∈ s.ifaces, ∀ g,
    (visit (x, g)).1.ipaIfNum = x.ipaIfNum ∧ Sound (visit (x, g)).1) :
    Kept (s.processFor n visit) := by
  refine H.process fun x hx g => ?_
  dsimp only
  split_ifs
  · exact hv x hx g
  · exact ⟨rfl, H.sound x hx⟩

end Dispatch

end Ipacm.WanRoutes
