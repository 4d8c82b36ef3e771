import OcnDevice.Ipacm.IfaceManager.Model

/-!
# Dispatching to interface instances

What one event of the queues does.  The registrations with the dispatcher are those of the manager
and, behind them, those of each instance of the manager's list (`registrations`), so a dispatch calls
the manager or every instance, and at most one of them acts: `processEvt_one` reduces the walk over
the nodes to the callback of that one.  A link-up reaches the manager (`Ok.serve_linkUp`), a link-down
the instance of its interface (`Ok.serve_linkDown`), and `IPA_LAN_DELETE_SELF` the instance that
posted it (`Ok.serve_deleteSelf`).
-/

namespace Ipacm

open IpaCmEventId

/-! ## The list of registrations -/

/-- What is registered when the manager's list is `instances`. -/
def registrations (instances : List (ℕ × ℕ)) : List (ℕ × ℕ) :=
  (managerEvents.map fun e => (e.ctorIdx, managerObj)) ++
    instances.flatMap fun r => wlanEvents.map fun e => (e.ctorIdx, r.2)

/-- The last nodes of the list are `back`, and they register `R`. -/
def EvtDispatcher.Behind (d : EvtDispatcher) (back : List ℕ) (R : List (ℕ × ℕ)) : Prop :=
  ∃ front, d.Holds (front ++ back) ∧ back.map d.entry = R.map some

section Behind

variable {d : EvtDispatcher} {back : List ℕ} {R : List (ℕ × ℕ)} {event obj param : ℕ}

lemma EvtDispatcher.Behind.registr (event obj : ℕ) (H : d.Behind back R) :
    (d.registr event obj).Behind (back ++ [d.fresh]) (R ++ [(event, obj)]) := by
  obtain ⟨front, H, hback⟩ := H
  obtain ⟨H', hlater, -⟩ := H.registr event obj
  rw [List.append_assoc] at H'
  refine ⟨front, H', ?_⟩
  have hold : back.map (d.registr event obj).entry = back.map d.entry := by
    refine List.map_congr_left fun a ha => hlater.entry_eq (H.lt a (by simp [ha])) ?_
    exact (H'.alloc a).mpr (by simp [ha])
  rw [List.map_append, hold, hback]
  simp [registr_entry]

lemma EvtDispatcher.Behind.registrAll (events : List IpaCmEventId) (obj : ℕ)
    (H : d.Behind back R) : ∃ new, new.length = events.length ∧
      (d.registrAll events obj).Behind (back ++ new)
        (R ++ events.map fun e => (e.ctorIdx, obj)) := by
  induction events generalizing d back R with
  | nil => exact ⟨[], rfl, by simpa [EvtDispatcher.registrAll] using H⟩
  | cons e events ih =>
      obtain ⟨new, hlen, H'⟩ := ih (H.registr e.ctorIdx obj)
      refine ⟨d.fresh :: new, by simp [hlen], ?_⟩
      simpa [EvtDispatcher.registrAll] using H'

/-- Nodes stay if none of them belongs to the listener that is taken out. -/
lemma EvtDispatcher.Behind.deregistr (H : d.Behind back R) (hR : ∀ r ∈ R, r.2 ≠ param) :
    (d.deregistr param).Behind back R := by
  obtain ⟨front, H, hback⟩ := H
  obtain ⟨H', hlater, -⟩ := H.deregistr param
  have hkeep : back.filter (fun a => d.owner a ≠ some param) = back := by
    refine List.filter_eq_self.mpr fun a ha => ?_
    have hmem := List.mem_map_of_mem (f := d.entry) ha
    rw [hback, List.mem_map] at hmem
    obtain ⟨r, hr, he⟩ := hmem
    rw [EvtDispatcher.owner_of_entry he.symm]
    simpa using hR r hr
  rw [List.filter_append, hkeep] at H'
  refine ⟨_, H', ?_⟩
  rw [← hback]
  refine List.map_congr_left fun a ha => hlater.entry_eq (H.lt a (by simp [ha])) ?_
  exact (H'.alloc a).mpr (by simp [ha])

lemma EvtDispatcher.Lists.registrAll (events : List IpaCmEventId) (obj : ℕ) (H : d.Lists R) :
    (d.registrAll events obj).Lists (R ++ events.map fun e => (e.ctorIdx, obj)) := by
  induction events generalizing d R with
  | nil => simpa [EvtDispatcher.registrAll] using H
  | cons e events ih => simpa [EvtDispatcher.registrAll] using ih (H.registr e.ctorIdx obj)

/-- The node behind a node. -/
lemma EvtDispatcher.Holds.next_eq {front : List ℕ} {a : ℕ} (H : d.Holds (front ++ a :: back)) :
    d.next a = back.head? := by
  cases back with
  | nil => exact H.path.next_last
  | cons b back => exact H.path.back.1

end Behind

/-! ## One dispatch -/

namespace IfaceSys

variable {query : ℕ → Option ℕ} {s s' : IfaceSys} {event : IpaCmEventId} {ifIndex fuel : ℕ}
  {front rest back : List ℕ} {R R₁ R₂ : List (ℕ × ℕ)}

/-- None of the listeners that `R` registers for the event does anything. -/
def Quiet (query : ℕ → Option ℕ) (s : IfaceSys) (event : IpaCmEventId) (ifIndex : ℕ)
    (R : List (ℕ × ℕ)) : Prop :=
  ∀ obj, (event.ctorIdx, obj) ∈ R → s.eventCallback query obj event ifIndex = s

variable (fuel) in
/-- The walk over nodes whose listeners do nothing. -/
lemma walk_quiet (H : s.disp.Holds (front ++ rest ++ back))
    (hR : rest.map s.disp.entry = R.map some) (hq : s.Quiet query event ifIndex R) :
    walk query event ifIndex (rest.length + fuel) s (rest ++ back).head? =
      walk query event ifIndex fuel s back.head? := by
  induction rest generalizing front R with
  | nil => simp
  | cons a rest ih =>
      cases R with
      | nil => simp at hR
      | cons r R =>
          simp only [List.map_cons, List.cons.injEq] at hR
          obtain ⟨n, hn⟩ := H.some_of_mem (a := a) (by simp)
          have hr : (n.event, n.obj) = r := by
            have := hR.1
            simpa [EvtDispatcher.entry, hn] using this
          have hnext : n.next = (rest ++ back).head? := by
            have hp : s.disp.Holds (front ++ a :: (rest ++ back)) := by simpa using H
            rw [← hp.next_eq, EvtDispatcher.next, hn]
            rfl
          have hgo := ih (by simpa using H : s.disp.Holds ((front ++ [a]) ++ rest ++ back)) hR.2
            fun obj hobj => hq obj (List.mem_cons_of_mem _ hobj)
          rw [List.length_cons, Nat.add_right_comm, List.cons_append, List.head?_cons, walk, hn]
          simp only [hnext]
          split_ifs with hevt
          · rw [hq n.obj (by rw [← hr, hevt]; simp)]
            exact hgo
          · exact hgo

/-- The walk over the end of the list. -/
lemma walk_behind (H : s.disp.Behind back R) (hq : s.Quiet query event ifIndex R)
    (hfuel : back.length ≤ fuel) : walk query event ifIndex fuel s back.head? = s := by
  obtain ⟨front, H, hR⟩ := H
  obtain ⟨k, rfl⟩ := Nat.exists_eq_add_of_le hfuel
  have hwalk := walk_quiet k (by simpa using H : s.disp.Holds (front ++ back ++ [])) hR hq
  rw [List.append_nil] at hwalk
  rw [hwalk]
  cases k <;> rfl

/-- A dispatch in which nothing happens. -/
lemma processEvt_quiet (H : s.disp.Lists R) (hq : s.Quiet query event ifIndex R) :
    s.processEvt query event ifIndex = s := by
  obtain ⟨l, H, hl⟩ := H
  have hhead : s.disp.head = l.head? := by
    cases l with
    | nil => exact H.path
    | cons a l => exact H.path.1
  rw [processEvt, hhead]
  exact walk_behind ⟨[], by simpa using H, hl⟩ hq (H.length_le.trans (Nat.le_add_right _ _))

/-- **A dispatch in which one listener acts.**  The listeners in front of it do nothing in the state
before, and those behind it, with whatever the callback appends, nothing in the state it leaves. -/
lemma processEvt_one {obj : ℕ} (H : s.disp.Lists (R₁ ++ (event.ctorIdx, obj) :: R₂))
    (hq : s.Quiet query event ifIndex R₁) (hs' : s.eventCallback query obj event ifIndex = s')
    (hback : ∀ back, s.disp.Behind back R₂ → ∃ new R₃, new.length ≤ wlanEvents.length ∧
      s'.disp.Behind (back ++ new) (R₂ ++ R₃) ∧ s'.Quiet query event ifIndex (R₂ ++ R₃)) :
    s.processEvt query event ifIndex = s' := by
  obtain ⟨l, H, hl⟩ := H
  rw [List.map_append, List.map_cons, List.map_eq_append_iff] at hl
  obtain ⟨front, tail, rfl, hfront, htail⟩ := hl
  cases tail with
  | nil => simp at htail
  | cons a back =>
      simp only [List.map_cons, List.cons.injEq] at htail
      obtain ⟨n, hn⟩ := H.some_of_mem (a := a) (by simp)
      have hr : n.event = event.ctorIdx ∧ n.obj = obj := by
        have := htail.1
        simpa [EvtDispatcher.entry, hn] using this
      have hnext : n.next = back.head? := by
        rw [← H.next_eq, EvtDispatcher.next, hn]
        rfl
      have hhead : s.disp.head = (front ++ a :: back).head? := by
        cases front with
        | nil => exact H.path.1
        | cons b front => exact H.path.1
      have hlen := H.length_le
      rw [List.length_append, List.length_cons] at hlen
      obtain ⟨k, hk⟩ : ∃ k, s.disp.fresh + wlanEvents.length = front.length + (k + 1) :=
        ⟨s.disp.fresh + wlanEvents.length - front.length - 1, by omega⟩
      obtain ⟨new, R₃, hnew, hbehind, hq'⟩ := hback back
        ⟨front ++ [a], by simpa using H, htail.2⟩
      have H' : s.disp.Holds ([] ++ front ++ a :: back) := by simpa using H
      rw [processEvt, hhead, hk, walk_quiet _ H' hfront hq,
        List.head?_cons, walk, hn]
      simp only [hr.1, hr.2, hnext, if_true, hs']
      -- behind the last node there is nothing, even if the callback appended nodes
      cases back with
      | nil => cases k <;> rfl
      | cons b back =>
          have hsame : (b :: back).head? = (b :: back ++ new).head? := rfl
          rw [hsame]
          refine walk_behind hbehind hq' ?_
          simp only [List.length_append, List.length_cons] at hlen ⊢
          omega

end IfaceSys

/-! ## The invariant -/

namespace IfaceSys

/-- **What holds between two steps**: the lists and the objects agree, an interface has the category
of an access point just when its link is up, which is when it has an active instance, and an instance
that is not active has its last event pending. -/
structure Ok (query : ℕ → Option ℕ) (s : IfaceSys) : Prop where
  lists : s.disp.Lists (registrations s.instances)
  keys : (s.instances.map Prod.fst).Nodup
  ptrs : (s.instances.map Prod.snd).Nodup
  live : ∀ i obj, (i, obj) ∈ s.instances ↔ ∃ b, s.objs obj = some ⟨i, b⟩
  made : ∀ obj, (∃ w, s.objs obj = some w) ∨ obj ∈ s.destroyed ↔
    managerObj < obj ∧ obj < s.fresh
  gone : ∀ obj ∈ s.destroyed, s.objs obj = none
  once : s.destroyed.Nodup
  count : s.numWlanApIface = s.instances.length
  cat : ∀ i, s.ifCat i = if isUp query s.served i then .wlanIf else .unknownIf
  active : ∀ i, isUp query s.served i = true ↔ ∃ obj, s.objs obj = some ⟨i, true⟩
  pending : ∀ i, i ∈ s.internal ↔ ∃ obj, s.objs obj = some ⟨i, false⟩
  atMostOne : s.internal.length ≤ 1
  faults : s.faults = 0
  pos : managerObj < s.fresh

section Ok

variable {query : ℕ → Option ℕ} {s t : IfaceSys} {event : IpaCmEventId} {i obj ifIndex : ℕ}
  {insts A B : List (ℕ × ℕ)}

/-- `isUp` behind one more event. -/
lemma isUp_snoc (served : List LinkEvt) (e : LinkEvt) (i : ℕ) :
    isUp query (served ++ [e]) i = ( e.says query i).getD (isUp query served i) := by
  simp [isUp, List.foldl_append]

lemma mem_registrations {r : ℕ × ℕ} : r ∈ registrations insts ↔
    (∃ e ∈ managerEvents, r = (e.ctorIdx, managerObj)) ∨
      ∃ q ∈ insts, ∃ e ∈ wlanEvents, r = (e.ctorIdx, q.2) := by
  simp only [registrations, List.mem_append, List.mem_map, List.mem_flatMap, eq_comm]

lemma ctorIdx_inj {e e' : IpaCmEventId} : e.ctorIdx = e'.ctorIdx ↔ e = e' := by
  constructor
  · intro h
    cases e <;> cases e' <;> first | rfl | exact absurd h (by decide)
  · rintro rfl
    rfl

/-- The registrations of the listeners behind one that is taken out stay. -/
lemma registrations_filter (hobj : managerObj < obj) :
    (registrations insts).filter (fun r => r.2 ≠ obj) =
      registrations (insts.filter fun q => q.2 ≠ obj) := by
  have hmgr : ((managerEvents.map fun e => (e.ctorIdx, managerObj)).filter fun r => r.2 ≠ obj) =
      managerEvents.map fun e => (e.ctorIdx, managerObj) := by
    refine List.filter_eq_self.mpr fun r hr => ?_
    obtain ⟨e, -, rfl⟩ := List.mem_map.mp hr
    simpa using hobj.ne
  rw [registrations, registrations, List.filter_append, hmgr]
  congr 1
  induction insts with
  | nil => rfl
  | cons q insts ih =>
      rw [List.flatMap_cons, List.filter_append, ih, List.filter_cons]
      by_cases hq : q.2 = obj
      · simp [hq]
      · have hall : ((wlanEvents.map fun e => (e.ctorIdx, q.2)).filter fun r => r.2 ≠ obj) =
            wlanEvents.map fun e => (e.ctorIdx, q.2) := by
          refine List.filter_eq_self.mpr fun r hr => ?_
          obtain ⟨e, -, rfl⟩ := List.mem_map.mp hr
          simpa using hq
        rw [hall]
        simp [hq]

variable (event i obj) in
/-- An event that an instance registers for stands at one place of what it registers. -/
lemma registrations_split (hevent : event ∈ wlanEvents) :
    ∃ pre post, wlanEvents = pre ++ event :: post ∧ event ∉ pre ∧ event ∉ post ∧
      registrations (A ++ (i, obj) :: B) =
        (registrations A ++ pre.map fun e => (e.ctorIdx, obj)) ++ (event.ctorIdx, obj) ::
          ((post.map fun e => (e.ctorIdx, obj)) ++
            B.flatMap fun r => wlanEvents.map fun e => (e.ctorIdx, r.2)) := by
  obtain ⟨pre, post, hsplit⟩ := List.append_of_mem hevent
  have hnd : wlanEvents.Nodup := by decide
  rw [hsplit, List.nodup_middle, List.nodup_cons, List.mem_append] at hnd
  refine ⟨pre, post, hsplit, fun h => hnd.1 (Or.inl h), fun h => hnd.1 (Or.inr h), ?_⟩
  rw [registrations, registrations, List.flatMap_append, List.flatMap_cons]
  nth_rewrite 2 [hsplit]
  simp

lemma Ok.obj_pos (H : s.Ok query) {w : IpacmWlan} (hw : s.objs obj = some w) :
    managerObj < obj ∧ obj < s.fresh :=
  (H.made obj).mp (Or.inl ⟨w, hw⟩)

/-- Two instances of one interface are one. -/
lemma Ok.unique (H : s.Ok query) {obj' : ℕ} {b b' : Bool} (h : s.objs obj = some ⟨i, b⟩)
    (h' : s.objs obj' = some ⟨i, b'⟩) : obj = obj' ∧ b = b' := by
  have hm := (H.live i obj).mpr ⟨b, h⟩
  have hm' := (H.live i obj').mpr ⟨b', h'⟩
  obtain rfl : obj = obj' := by
    have := List.inj_on_of_nodup_map H.keys hm hm' rfl
    exact (Prod.mk.inj this).2
  rw [h] at h'
  exact ⟨rfl, by simpa using h'⟩

/-- A listener does nothing on an event that is not about it. -/
lemma eventCallback_other {w : IpacmWlan} (hpos : managerObj < obj) (hw : s.objs obj = some w)
    (hdown : event = wlanLinkDownEvent → query ifIndex ≠ some w.ipaIfNum)
    (hself : event = IpaCmEventId.lanDeleteSelf → ifIndex ≠ w.ipaIfNum) :
    s.eventCallback query obj event ifIndex = s := by
  rw [eventCallback, if_neg hpos.ne', hw]
  simp only
  split_ifs with h1 h2 h3
  · rfl
  · rw [wlanLinkDown, if_neg (hdown h2)]
  · rw [IfaceSys.lanDeleteSelf, if_neg (hself h3)]
  · rfl

/-- The manager does nothing but on a link-up. -/
lemma eventCallback_manager (hevent : event ≠ wlanApLinkUpEvent) :
    s.eventCallback query managerObj event ifIndex = s := by
  rw [eventCallback, if_pos rfl, if_neg hevent]

/-- **An event that no instance is concerned by** does nothing. -/
lemma quiet_others (hevent : event ≠ wlanApLinkUpEvent)
    (hobj : ∀ q ∈ insts, ∃ w, managerObj < q.2 ∧ s.objs q.2 = some w ∧
      (event = wlanLinkDownEvent → query ifIndex ≠ some w.ipaIfNum) ∧
      (event = IpaCmEventId.lanDeleteSelf → ifIndex ≠ w.ipaIfNum)) :
    s.Quiet query event ifIndex (registrations insts) := by
  intro obj hmem
  rcases mem_registrations.mp hmem with ⟨e, -, he⟩ | ⟨q, hq, e, -, he⟩
  · obtain rfl : obj = managerObj := (Prod.mk.inj he).2
    exact eventCallback_manager hevent
  · obtain rfl : obj = q.2 := (Prod.mk.inj he).2
    obtain ⟨w, hpos, hw, hdown, hself⟩ := hobj q hq
    exact eventCallback_other hpos hw hdown hself

end Ok

end IfaceSys

/-! ## The steps -/

namespace IfaceSys

section Steps

variable {query : ℕ → Option ℕ} {s t : IfaceSys} {event : IpaCmEventId} {i obj ifIndex : ℕ}
  {R R' A B rest : List (ℕ × ℕ)}

lemma Quiet.append (h : s.Quiet query event ifIndex R) (h' : s.Quiet query event ifIndex R') :
    s.Quiet query event ifIndex (R ++ R') := by
  intro obj hmem
  rcases List.mem_append.mp hmem with hmem | hmem
  · exact h obj hmem
  · exact h' obj hmem

/-- Registrations for other events. -/
lemma Quiet.events {events : List IpaCmEventId} (h : event ∉ events) :
    s.Quiet query event ifIndex (events.map fun e => (e.ctorIdx, obj)) := by
  intro obj' hmem
  obtain ⟨e, he, heq⟩ := List.mem_map.mp hmem
  obtain rfl := ctorIdx_inj.mp (Prod.mk.inj heq).1
  exact absurd he h

lemma Quiet.back (h : s.Quiet query event ifIndex (registrations B)) :
    s.Quiet query event ifIndex (B.flatMap fun r => wlanEvents.map fun e => (e.ctorIdx, r.2)) :=
  fun obj hmem => h obj (List.mem_append_right _ hmem)

/-- The instances beside one of them. -/
lemma Ok.others (H : s.Ok query) (hsplit : s.instances = A ++ (i, obj) :: B) :
    ∀ q, q ∈ A ∨ q ∈ B → managerObj < q.2 ∧ q.2 ≠ obj ∧ q.1 ≠ i ∧ ∃ b, s.objs q.2 = some ⟨q.1, b⟩ := by
  intro q hq
  have hmem : q ∈ s.instances := by
    rw [hsplit]
    rcases hq with hq | hq <;> simp [hq]
  obtain ⟨b, hb⟩ := (H.live q.1 q.2).mp hmem
  have hkeys := H.keys
  have hptrs := H.ptrs
  rw [hsplit, List.map_append, List.map_cons, List.nodup_middle, List.nodup_cons,
    List.mem_append] at hkeys hptrs
  refine ⟨(H.obj_pos hb).1, fun h => hptrs.1 ?_, fun h => hkeys.1 ?_, b, hb⟩
  · simp only [List.mem_map]
    exact hq.imp (fun hq => ⟨q, hq, h⟩) fun hq => ⟨q, hq, h⟩
  · simp only [List.mem_map]
    exact hq.imp (fun hq => ⟨q, hq, h⟩) fun hq => ⟨q, hq, h⟩

/-- **An instance destroys itself** when its event is served. -/
lemma Ok.serve_deleteSelf (H : s.Ok query) {rest : List ℕ} (hint : s.internal = i :: rest) :
    ∃ obj, s.objs obj = some ⟨i, false⟩ ∧ s.internal = [i] ∧ s.serve query =
      { s with internal := [], numWlanApIface := s.numWlanApIface - 1 }.delete obj := by
  obtain ⟨obj, hobj⟩ := (H.pending i).mp (by simp [hint])
  have hrest : rest = [] := by
    have := H.atMostOne
    rw [hint] at this
    simpa using this
  subst hrest
  refine ⟨obj, hobj, hint, ?_⟩
  have hpos := (H.obj_pos hobj).1
  obtain ⟨A, B, hsplit⟩ := List.append_of_mem ((H.live i obj).mpr ⟨false, hobj⟩)
  have hoth := H.others hsplit
  obtain ⟨pre, post, hev, hpre, -, hregs⟩ :=
    registrations_split .lanDeleteSelf i obj (A := A) (B := B) (by decide)
  -- it is the last event that an instance registers for
  have hpost : post = [] := by
    by_contra hne
    have hlast : wlanEvents.getLast? = some IpaCmEventId.lanDeleteSelf := rfl
    have hnd : wlanEvents.Nodup := by decide
    obtain ⟨e, post, rfl⟩ := List.exists_cons_of_ne_nil hne
    rw [hev, List.getLast?_append_cons, List.getLast?_cons_cons] at hlast
    rw [hev, List.nodup_middle, List.nodup_cons] at hnd
    exact hnd.1 (List.mem_append_right _ (List.mem_of_getLast? hlast))
  subst hpost
  rw [serve, hint]
  have hlists := H.lists
  rw [hsplit, hregs] at hlists
  refine processEvt_one hlists ?_ ?_ fun back hback => ?_
  · refine Quiet.append (quiet_others (by decide) fun q hq => ?_) (Quiet.events hpre)
    obtain ⟨hq0, -, hqi, b, hb⟩ := hoth q (Or.inl hq)
    exact ⟨_, hq0, hb, by simp, fun _ => hqi.symm⟩
  · rw [eventCallback, if_neg hpos.ne']
    simp only [hobj]
    rw [if_neg (by simp), if_neg (by simp), if_pos trivial, IfaceSys.lanDeleteSelf, if_pos rfl]
  · refine ⟨[], [], by simp, ?_, ?_⟩
    · rw [List.append_nil, List.append_nil]
      refine EvtDispatcher.Behind.deregistr hback fun r hr => ?_
      simp only [List.map_nil, List.nil_append, List.mem_flatMap, List.mem_map] at hr
      obtain ⟨q, hq, e, -, rfl⟩ := hr
      exact (hoth q (Or.inr hq)).2.1
    · rw [List.append_nil, List.map_nil, List.nil_append]
      refine Quiet.back (quiet_others (by decide) fun q hq => ?_)
      obtain ⟨hq0, hqo, hqi, b, hb⟩ := hoth q (Or.inr hq)
      exact ⟨⟨q.1, b⟩, hq0, by simp [delete, hqo, hb], by simp, fun _ => hqi.symm⟩

/-- **A link-down** reaches the instance of the interface. -/
lemma Ok.serve_linkDown (H : s.Ok query) {rest : List LinkEvt} (hint : s.internal = [])
    (hext : s.external = .down ifIndex :: rest) :
    let s₀ := { s with external := rest, served := s.served ++ [LinkEvt.down ifIndex] }
    (∃ i obj, query ifIndex = some i ∧ s.objs obj = some ⟨i, true⟩ ∧
      s.serve query = s₀.wlanLinkDown query obj ⟨i, true⟩ ifIndex) ∨
    (∀ i, query ifIndex = some i → isUp query s.served i = false) ∧ s.serve query = s₀ := by
  intro s₀
  have hserve : s.serve query = s₀.processEvt query wlanLinkDownEvent ifIndex := by
    rw [serve, hint, hext]
    simp only [s₀, hint]
  rw [hserve]
  have hinactive : ∀ i obj, s.objs obj ≠ some ⟨i, false⟩ := fun i obj h => by
    simpa [hint] using (H.pending i).mpr ⟨obj, h⟩
  by_cases hi : ∃ i obj, query ifIndex = some i ∧ s.objs obj = some ⟨i, true⟩
  · obtain ⟨i, obj, hq, hobj⟩ := hi
    refine Or.inl ⟨i, obj, hq, hobj, ?_⟩
    have hpos := (H.obj_pos hobj).1
    obtain ⟨A, B, hsplit⟩ := List.append_of_mem ((H.live i obj).mpr ⟨true, hobj⟩)
    have hoth := H.others hsplit
    obtain ⟨pre, post, hev, hpre, hpost, hregs⟩ :=
      registrations_split wlanLinkDownEvent i obj (A := A) (B := B) (by decide)
    have hlists := H.lists
    rw [hsplit, hregs] at hlists
    have hact : s₀.eventCallback query obj wlanLinkDownEvent ifIndex =
        s₀.wlanLinkDown query obj ⟨i, true⟩ ifIndex := by
      rw [eventCallback, if_neg hpos.ne']
      simp only [s₀, hobj]
      rw [if_neg (by simp), if_pos trivial]
    refine processEvt_one hlists ?_ hact fun back hback => ⟨[], [], by simp, ?_, ?_⟩
    · refine Quiet.append (quiet_others (by decide) fun q hq' => ?_) (Quiet.events hpre)
      obtain ⟨hq0, -, hqi, b, hb⟩ := hoth q (Or.inl hq')
      exact ⟨_, hq0, hb, fun _ => by rw [hq]; simpa using hqi.symm, by simp⟩
    · rw [List.append_nil, List.append_nil, wlanLinkDown, if_pos hq]
      exact hback
    · rw [List.append_nil]
      refine Quiet.append (Quiet.events hpost) (Quiet.back (quiet_others (by decide) fun q hq' => ?_))
      obtain ⟨hq0, hqo, hqi, b, hb⟩ := hoth q (Or.inr hq')
      refine ⟨⟨q.1, b⟩, hq0, ?_, fun _ => by rw [hq]; simpa using hqi.symm, by simp⟩
      rw [wlanLinkDown, if_pos hq]
      simp [s₀, hqo, hb]
  · right
    refine ⟨fun i hq => ?_, processEvt_quiet H.lists (quiet_others (by decide) fun q hq' => ?_)⟩
    · rw [Bool.eq_false_iff]
      intro hup
      obtain ⟨obj, hobj⟩ := (H.active i).mp hup
      exact hi ⟨i, obj, hq, hobj⟩
    · obtain ⟨b, hb⟩ := (H.live q.1 q.2).mp hq'
      refine ⟨_, (H.obj_pos hb).1, hb, fun _ hq => hi ⟨q.1, q.2, hq, ?_⟩, by simp⟩
      cases b with
      | true => exact hb
      | false => exact absurd hb (hinactive _ _)

variable (query ifIndex) in
/-- **What the manager's callback does to the dispatcher**: at most it appends the registrations of
one new instance. -/
lemma wlanApLinkUp_behind {back : List ℕ} (hback : s.disp.Behind back R)
    (hR : ∀ r ∈ R, r.2 ≠ s.fresh) : ∃ new R', new.length ≤ wlanEvents.length ∧
      (s.wlanApLinkUp query ifIndex).disp.Behind (back ++ new) (R ++ R') ∧
      ∀ r ∈ R', ∃ e ∈ wlanEvents, r.1 = e.ctorIdx := by
  have hsame : ∃ new R', new.length ≤ wlanEvents.length ∧ s.disp.Behind (back ++ new) (R ++ R') ∧
      ∀ r ∈ R', ∃ e ∈ wlanEvents, r.1 = e.ctorIdx :=
    ⟨[], [], by simp, by simpa using hback, by simp⟩
  rw [wlanApLinkUp]
  cases query ifIndex with
  | none => exact hsame
  | some i =>
      simp only
      split_ifs
      · rw [createIfaceInstance]
        split_ifs
        · exact hsame
        · simp only [Function.update_self]
          have hnew : ∀ d : EvtDispatcher, d.Behind back R → ∃ new R',
              new.length ≤ wlanEvents.length ∧
              (d.registrAll wlanEvents s.fresh).Behind (back ++ new) (R ++ R') ∧
              ∀ r ∈ R', ∃ e ∈ wlanEvents, r.1 = e.ctorIdx := by
            intro d hd
            obtain ⟨new, hlen, hd'⟩ := hd.registrAll wlanEvents s.fresh
            refine ⟨new, _, hlen.le, hd', fun r hr => ?_⟩
            obtain ⟨e, he, rfl⟩ := List.mem_map.mp hr
            exact ⟨e, he, rfl⟩
          rw [newWlan]
          split_ifs
          · exact hnew _ (hback.deregistr hR)
          · exact hnew _ hback
      · exact hsame

/-- **A link-up** reaches the manager, and nobody else. -/
lemma Ok.serve_linkUp (H : s.Ok query) {rest : List LinkEvt} (hint : s.internal = [])
    (hext : s.external = .up ifIndex :: rest) :
    let s₀ := { s with external := rest, served := s.served ++ [LinkEvt.up ifIndex] }
    s.serve query = s₀.wlanApLinkUp query ifIndex := by
  intro s₀
  have hserve : s.serve query = s₀.processEvt query wlanApLinkUpEvent ifIndex := by
    rw [serve, hint, hext]
    simp only [s₀, hint]
  rw [hserve]
  have hsplit : registrations s.instances =
      (managerEvents.take 2).map (fun e => (e.ctorIdx, managerObj)) ++
        (wlanApLinkUpEvent.ctorIdx, managerObj) ::
          ((managerEvents.drop 3).map (fun e => (e.ctorIdx, managerObj)) ++
            s.instances.flatMap fun r => wlanEvents.map fun e => (e.ctorIdx, r.2)) := rfl
  have hback : ∀ r ∈ (managerEvents.drop 3).map (fun e => (e.ctorIdx, managerObj)) ++
      s.instances.flatMap (fun r => wlanEvents.map fun e => (e.ctorIdx, r.2)),
      r.2 ≠ s₀.fresh ∧ r.1 ≠ wlanApLinkUpEvent.ctorIdx := by
    intro r hr
    simp only [List.mem_append, List.mem_map, List.mem_flatMap] at hr
    rcases hr with ⟨e, he, rfl⟩ | ⟨q, hq, e, he, rfl⟩
    · refine ⟨?_, ?_⟩
      · exact H.pos.ne
      · intro h
        obtain rfl := ctorIdx_inj.mp h
        exact absurd he (by decide)
    · obtain ⟨b, hb⟩ := (H.live q.1 q.2).mp hq
      refine ⟨(H.obj_pos hb).2.ne, fun h => ?_⟩
      obtain rfl := ctorIdx_inj.mp h
      exact absurd he (by decide)
  have hlists := H.lists
  rw [hsplit] at hlists
  refine processEvt_one hlists (Quiet.events (by decide)) ?_ fun back hbehind => ?_
  · rw [eventCallback, if_pos rfl, if_pos rfl]
  · obtain ⟨new, R', hlen, hbehind', hR'⟩ :=
      wlanApLinkUp_behind query ifIndex (s := s₀) hbehind
        fun r hr => (hback r hr).1
    refine ⟨new, R', hlen, hbehind', fun obj hmem => ?_⟩
    exfalso
    rcases List.mem_append.mp hmem with hmem | hmem
    · exact (hback _ hmem).2 rfl
    · obtain ⟨e, he, heq⟩ := hR' _ hmem
      have hevt : wlanApLinkUpEvent = e := ctorIdx_inj.mp heq
      rw [← hevt] at he
      exact absurd he (by decide)

end Steps

end IfaceSys

end Ipacm
