import OcnDevice.Ipacm.IfaceManager.Dispatch

/-!
# The life cycle of interface instances

Every step that does not make a third instance keeps the invariant of the dispatch
(`IfaceSys.Ok.step`), and the invariant says that the life cycle is sound (`life_cycle_of_run`).  A
link-up that finds two instances breaks it (`IfaceSys.Ok.third`).
-/

namespace Ipacm

open IpaCmEventId

namespace IfaceSys

/-! ## The invariant through the steps -/

section Invariant

variable {query : ℕ → Option ℕ} {s t : IfaceSys} {i obj ifIndex : ℕ}

lemma Ok.init : IfaceSys.init.Ok query where
  lists := by
    have := EvtDispatcher.lists_init.registrAll managerEvents managerObj
    simpa [registrations, IfaceSys.init] using this
  keys := .nil
  ptrs := .nil
  live := by simp [IfaceSys.init]
  made := by
    intro obj
    simp only [IfaceSys.init, reduceCtorEq, exists_false, List.not_mem_nil, or_self, false_iff]
    omega
  gone := by simp [IfaceSys.init]
  once := .nil
  count := rfl
  cat := fun _ => rfl
  active := by simp [IfaceSys.init, isUp]
  pending := by simp [IfaceSys.init]
  atMostOne := by simp [IfaceSys.init]
  faults := rfl
  pos := Nat.lt_succ_self _

/-- Events that wait outside do not matter. -/
lemma Ok.post (H : s.Ok query) (e : LinkEvt) : (s.run query (.post e)).Ok query := { H with }

/-- An instance is destroyed. -/
lemma Ok.deleteSelf (H : s.Ok query) (hobj : s.objs obj = some ⟨i, false⟩) (hint : s.internal = [i]) :
    ({ s with internal := [], numWlanApIface := s.numWlanApIface - 1 }.delete obj).Ok query := by
  have hmem := (H.live i obj).mpr ⟨false, hobj⟩
  have hother : ∀ o w, Function.update s.objs obj none o = some w ↔ o ≠ obj ∧ s.objs o = some w := by
    intro o w
    by_cases h : o = obj
    · simp [h]
    · simp [h]
  obtain ⟨A, B, hsplit⟩ := List.append_of_mem hmem
  have hoth := H.others hsplit
  have hfilter : s.instances.filter (fun q => q.2 ≠ obj) = A ++ B := by
    rw [hsplit, List.filter_append, List.filter_cons_of_neg (by simp),
      List.filter_eq_self.mpr fun q hq => by simpa using (hoth q (Or.inl hq)).2.1,
      List.filter_eq_self.mpr fun q hq => by simpa using (hoth q (Or.inr hq)).2.1]
  have hsub : (A ++ B).Sublist s.instances := by
    rw [hsplit]
    exact (List.Sublist.refl A).append (List.sublist_cons_self _ B)
  refine
    { lists := ?_, keys := ?_, ptrs := ?_, live := ?_, made := ?_, gone := ?_, once := ?_,
      count := ?_, cat := H.cat, active := ?_, pending := ?_, atMostOne := by simp [delete],
      faults := H.faults, pos := H.pos }
  · have := H.lists.deregistr obj
    rwa [registrations_filter (H.obj_pos hobj).1] at this
  · rw [delete, hfilter]
    exact H.keys.sublist (hsub.map _)
  · rw [delete, hfilter]
    exact H.ptrs.sublist (hsub.map _)
  · intro j o
    simp only [delete, List.mem_filter, H.live, hother, decide_eq_true_eq]
    constructor
    · rintro ⟨⟨b, hb⟩, ho⟩
      exact ⟨b, ho, hb⟩
    · rintro ⟨b, ho, hb⟩
      exact ⟨⟨b, hb⟩, ho⟩
  · intro o
    simp only [delete, hother, List.mem_append, List.mem_singleton, ← H.made o]
    constructor
    · rintro (⟨w, -, hw⟩ | ho | rfl)
      · exact Or.inl ⟨w, hw⟩
      · exact Or.inr ho
      · exact Or.inl ⟨_, hobj⟩
    · rintro (⟨w, hw⟩ | ho)
      · by_cases h : o = obj
        · exact Or.inr (Or.inr h)
        · exact Or.inl ⟨w, h, hw⟩
      · exact Or.inr (Or.inl ho)
  · intro o ho
    simp only [delete, List.mem_append, List.mem_singleton] at ho
    rcases ho with ho | rfl
    · by_cases h : o = obj
      · simp [delete, h]
      · simp [delete, h, H.gone o ho]
    · simp [delete]
  · refine List.nodup_append.mpr ⟨H.once, by simp, fun o ho o' ho' => ?_⟩
    rw [List.mem_singleton.mp ho']
    rintro rfl
    simp [H.gone o ho] at hobj
  · rw [delete, hfilter]
    have := H.count
    rw [hsplit] at this
    simp only [List.length_append, List.length_cons] at this ⊢
    omega
  · intro j
    simp only [delete, hother, H.active]
    constructor
    · rintro ⟨o, ho⟩
      refine ⟨o, ?_, ho⟩
      rintro rfl
      simp [hobj] at ho
    · rintro ⟨o, -, ho⟩
      exact ⟨o, ho⟩
  · intro j
    simp only [delete, List.not_mem_nil, hother, false_iff, not_exists, not_and]
    intro o ho hj
    have : j ∈ s.internal := (H.pending j).mpr ⟨o, hj⟩
    rw [hint, List.mem_singleton] at this
    subst this
    exact ho (H.unique hj hobj).1

/-- An instance stops being active. -/
lemma Ok.linkDown (H : s.Ok query) {rest : List LinkEvt} (hint : s.internal = [])
    (hq : query ifIndex = some i) (hobj : s.objs obj = some ⟨i, true⟩) :
    ({ s with external := rest, served := s.served ++ [LinkEvt.down ifIndex] }.wlanLinkDown query
      obj ⟨i, true⟩ ifIndex).Ok query := by
  have hup : ∀ j, isUp query (s.served ++ [LinkEvt.down ifIndex]) j =
      if j = i then false else isUp query s.served j := by
    intro j
    rw [isUp_snoc, LinkEvt.says, hq]
    by_cases h : j = i
    · simp [h]
    · simp [h, Ne.symm h]
  rw [wlanLinkDown, if_pos hq]
  refine
    { lists := H.lists, keys := H.keys, ptrs := H.ptrs, live := ?_, made := ?_, gone := ?_,
      once := H.once, count := H.count, cat := ?_, active := ?_, pending := ?_,
      atMostOne := by simp [hint], faults := H.faults, pos := H.pos }
  · intro j o
    rw [H.live]
    by_cases h : o = obj
    · simp [h, hobj]
    · simp [h]
  · intro o
    rw [← H.made]
    by_cases h : o = obj
    · simp [h, hobj]
    · simp [h]
  · intro o ho
    have hne : o ≠ obj := by
      rintro rfl
      simp [H.gone o ho] at hobj
    simp [hne, H.gone o ho]
  · intro j
    simp only [hup]
    by_cases h : j = i
    · simp [h]
    · simp [h, H.cat]
  · intro j
    simp only [hup]
    by_cases h : j = i
    · simp only [h, if_true, Bool.false_eq_true, false_iff, not_exists]
      intro o ho
      by_cases hoo : o = obj
      · simp [hoo] at ho
      · simp only [ne_eq, hoo, not_false_eq_true, Function.update_of_ne] at ho
        exact hoo (H.unique ho hobj).1
    · simp only [h, if_false, H.active]
      constructor
      · rintro ⟨o, ho⟩
        have hne : o ≠ obj := by
          rintro rfl
          rw [hobj] at ho
          simp at ho
          exact h ho.symm
        exact ⟨o, by simpa [hne] using ho⟩
      · rintro ⟨o, ho⟩
        have hne : o ≠ obj := by
          rintro rfl
          simp at ho
        exact ⟨o, by simpa [hne] using ho⟩
  · intro j
    simp only [hint, List.nil_append, List.mem_singleton]
    constructor
    · rintro rfl
      exact ⟨obj, by simp⟩
    · rintro ⟨o, ho⟩
      by_cases hoo : o = obj
      · simp [hoo] at ho
        exact ho.symm
      · simp only [ne_eq, hoo, not_false_eq_true, Function.update_of_ne] at ho
        have : j ∈ s.internal := (H.pending j).mpr ⟨o, ho⟩
        simp [hint] at this

/-- An interface whose link is down has no instance once the internal events are served. -/
lemma Ok.no_instance (H : s.Ok query) (hint : s.internal = []) (hcat : s.ifCat i = .unknownIf) :
    isUp query s.served i = false ∧ s.searchInstance i = false := by
  have hup : isUp query s.served i = false := by
    rw [H.cat] at hcat
    rw [Bool.eq_false_iff]
    intro h
    rw [if_pos h] at hcat
    exact absurd hcat (by decide)
  refine ⟨hup, ?_⟩
  rw [searchInstance, List.any_eq_false]
  rintro ⟨j, obj⟩ hmem hj
  obtain rfl : j = i := by simpa using hj
  obtain ⟨b, hb⟩ := (H.live j obj).mp hmem
  cases b with
  | true =>
      rw [(H.active j).mpr ⟨obj, hb⟩] at hup
      exact absurd hup (by decide)
  | false => simpa [hint] using (H.pending j).mpr ⟨obj, hb⟩

/-- What a link-up of an interface without an instance does. -/
lemma Ok.wlanApLinkUp_eq (H : s.Ok query) (rest : List LinkEvt) (hint : s.internal = [])
    (hq : query ifIndex = some i) (hcat : s.ifCat i = .unknownIf) :
    let s' := { s with
      external := rest
      served := s.served ++ [LinkEvt.up ifIndex]
      ifCat := Function.update s.ifCat i .wlanIf }.newWlan i
    { s with external := rest, served := s.served ++ [LinkEvt.up ifIndex] }.wlanApLinkUp
        query ifIndex =
      { s' with
        disp := s'.disp.registrAll wlanEvents s.fresh
        instances := s'.instances ++ [(i, s.fresh)] } := by
  intro s'
  have hsearch := (H.no_instance hint hcat).2
  rw [searchInstance] at hsearch
  rw [wlanApLinkUp, hq]
  simp only [hcat, if_true]
  rw [createIfaceInstance, searchInstance, hsearch]
  simp only [Function.update_self, Bool.false_eq_true, if_false]
  rfl

/-- What it does if there is room for the instance. -/
lemma Ok.linkUp_eq (H : s.Ok query) (rest : List LinkEvt) (hint : s.internal = [])
    (hq : query ifIndex = some i) (hcat : s.ifCat i = .unknownIf) (hnum : s.numWlanApIface < 2) :
    { s with external := rest, served := s.served ++ [LinkEvt.up ifIndex] }.wlanApLinkUp
        query ifIndex =
      { s with
        external := rest
        served := s.served ++ [LinkEvt.up ifIndex]
        ifCat := Function.update s.ifCat i .wlanIf
        objs := Function.update s.objs s.fresh (some ⟨i, true⟩)
        fresh := s.fresh + 1
        numWlanApIface := s.numWlanApIface + 1
        disp := s.disp.registrAll wlanEvents s.fresh
        instances := s.instances ++ [(i, s.fresh)] } := by
  have hcount := H.count
  have heq := H.wlanApLinkUp_eq rest hint hq hcat
  simp only at heq
  rw [heq, newWlan, if_neg (by simp only; omega)]

/-- **A new instance.** -/
lemma Ok.linkUp (H : s.Ok query) (rest : List LinkEvt) (hint : s.internal = [])
    (hq : query ifIndex = some i) (hcat : s.ifCat i = .unknownIf) (hnum : s.numWlanApIface < 2) :
    let t := { s with external := rest, served := s.served ++ [LinkEvt.up ifIndex] }.wlanApLinkUp
      query ifIndex
    t.Ok query ∧ t.objs s.fresh = some ⟨i, true⟩ := by
  intro t
  have hcount := H.count
  obtain ⟨hup, hsearch⟩ := H.no_instance hint hcat
  have hnone : ∀ w, s.objs s.fresh ≠ some w := fun w hw => absurd (H.obj_pos hw).2 (lt_irrefl _)
  have hother : ∀ o j b, Function.update s.objs s.fresh (some ⟨i, true⟩) o = some ⟨j, b⟩ ↔
      s.objs o = some ⟨j, b⟩ ∨ o = s.fresh ∧ j = i ∧ b = true := by
    intro o j b
    by_cases h : o = s.fresh
    · subst h
      simp [hnone, eq_comm]
    · simp [h]
  have hup' : ∀ j, isUp query (s.served ++ [LinkEvt.up ifIndex]) j =
      if j = i then true else isUp query s.served j := by
    intro j
    rw [isUp_snoc, LinkEvt.says, hq]
    by_cases h : j = i
    · simp [h]
    · simp [h, Ne.symm h]
  rw [show t = _ from H.linkUp_eq _ hint hq hcat hnum]
  refine ⟨
    { lists := ?_, keys := ?_, ptrs := ?_, live := ?_, made := ?_, gone := ?_, once := H.once,
      count := ?_, cat := ?_, active := ?_, pending := ?_, atMostOne := H.atMostOne,
      faults := H.faults, pos := Nat.lt_succ_of_lt H.pos }, by simp⟩
  · have := H.lists.registrAll wlanEvents s.fresh
    simpa [registrations] using this
  · rw [List.map_append]
    refine List.nodup_append.mpr ⟨H.keys, by simp, fun j hj j' hj' => ?_⟩
    obtain rfl : j' = i := by simpa using hj'
    rintro rfl
    obtain ⟨r, hr, rfl⟩ := List.mem_map.mp hj
    rw [searchInstance, List.any_eq_false] at hsearch
    exact hsearch r hr (by simp)
  · rw [List.map_append]
    refine List.nodup_append.mpr ⟨H.ptrs, by simp, fun o ho o' ho' => ?_⟩
    obtain rfl : o' = s.fresh := by simpa using ho'
    rintro rfl
    obtain ⟨⟨j, _⟩, hr, rfl⟩ := List.mem_map.mp ho
    obtain ⟨b, hb⟩ := (H.live _ _).mp hr
    exact hnone _ hb
  · intro j o
    simp only [List.mem_append, List.mem_singleton, Prod.mk.injEq, H.live, hother]
    constructor
    · rintro (⟨b, hb⟩ | ⟨rfl, rfl⟩)
      · exact ⟨b, Or.inl hb⟩
      · exact ⟨true, Or.inr ⟨rfl, rfl, rfl⟩⟩
    · rintro ⟨b, hb | ⟨rfl, rfl, -⟩⟩
      · exact Or.inl ⟨b, hb⟩
      · exact Or.inr ⟨rfl, rfl⟩
  · intro o
    have hmade := H.made o
    by_cases h : o = s.fresh
    · simpa [h] using H.pos
    · simp only [ne_eq, h, not_false_eq_true, Function.update_of_ne, hmade]
      omega
  · intro o ho
    have hlt := ((H.made o).mp (Or.inr ho)).2
    simp [hlt.ne, H.gone o ho]
  · simp only [List.length_append, List.length_singleton]
    omega
  · intro j
    simp only [hup']
    by_cases h : j = i
    · simp [h]
    · simp [h, H.cat]
  · intro j
    simp only [hup', hother]
    by_cases h : j = i
    · simp [h]
    · simp [h, H.active]
  · intro j
    simp [hother, H.pending]

variable (ifIndex) in
/-- A link-up of an interface that is up, or that is not configured. -/
lemma Ok.linkUp_again (H : s.Ok query) (rest : List LinkEvt)
    (h : ∀ i, query ifIndex = some i → s.ifCat i ≠ .unknownIf) :
    { s with external := rest, served := s.served ++ [LinkEvt.up ifIndex] }.wlanApLinkUp
        query ifIndex = { s with external := rest, served := s.served ++ [LinkEvt.up ifIndex] } ∧
      { s with external := rest, served := s.served ++ [LinkEvt.up ifIndex] }.Ok query := by
  have hsame : ∀ j, isUp query (s.served ++ [LinkEvt.up ifIndex]) j = isUp query s.served j := by
    intro j
    rw [isUp_snoc, LinkEvt.says]
    by_cases hq : query ifIndex = some j
    · have hcat := h j hq
      rw [H.cat] at hcat
      simp_all
    · simp [hq]
  refine ⟨?_, { H with cat := fun j => ?_, active := fun j => ?_ }⟩
  · rw [wlanApLinkUp]
    cases hq : query ifIndex with
    | none => rfl
    | some i => simp [h i hq]
  · rw [hsame]
    exact H.cat j
  · rw [hsame]
    exact H.active j

/-- A link-down of an interface that is down, or that is not configured. -/
lemma Ok.linkDown_again (H : s.Ok query) {rest : List LinkEvt}
    (h : ∀ i, query ifIndex = some i → isUp query s.served i = false) :
    { s with external := rest, served := s.served ++ [LinkEvt.down ifIndex] }.Ok query := by
  have hsame : ∀ j, isUp query (s.served ++ [LinkEvt.down ifIndex]) j = isUp query s.served j := by
    intro j
    rw [isUp_snoc, LinkEvt.says]
    by_cases hq : query ifIndex = some j
    · simp [hq, h j hq]
    · simp [hq]
  refine { H with cat := fun j => ?_, active := fun j => ?_ }
  · rw [hsame]
    exact H.cat j
  · rw [hsame]
    exact H.active j

/-- **Every step keeps the invariant.** -/
theorem Ok.step (H : s.Ok query) {a : IfaceAct} (h : s.Step query a t) : t.Ok query := by
  obtain ⟨rfl, hgood⟩ := h
  cases a with
  | post e => exact H.post e
  | serve =>
      rw [run]
      cases hint : s.internal with
      | cons i rest =>
          obtain ⟨obj, hobj, hone, heq⟩ := H.serve_deleteSelf hint
          rw [heq]
          exact H.deleteSelf hobj hone
      | nil =>
          cases hext : s.external with
          | nil =>
              rw [serve, hint, hext]
              exact H
          | cons e rest =>
              cases e with
              | up ifIndex =>
                  rw [H.serve_linkUp hint hext]
                  by_cases hnew : ∃ i, query ifIndex = some i ∧ s.ifCat i = .unknownIf
                  · obtain ⟨i, hq, hcat⟩ := hnew
                    exact (H.linkUp _ hint hq hcat
                      (hgood rfl i ⟨hint, hcat, ifIndex, rest, hext, hq⟩)).1
                  · obtain ⟨heq, hok⟩ := H.linkUp_again ifIndex rest
                      fun i hq hcat => hnew ⟨i, hq, hcat⟩
                    rw [heq]
                    exact hok
              | down ifIndex =>
                  rcases H.serve_linkDown hint hext with ⟨i, obj, hq, hobj, heq⟩ | ⟨hno, heq⟩
                  · rw [heq]
                    exact H.linkDown hint hq hobj
                  · rw [heq]
                    exact H.linkDown_again hno

/-- The invariant says that the life cycle is sound. -/
lemma Ok.lifeCycle (H : s.Ok query) : s.LifeCycle query := by
  have hptr : {obj | (s.objs obj).isSome} = ((s.instances.map Prod.snd).toFinset : Set ℕ) := by
    ext obj
    simp only [Set.mem_ofPred_eq, Option.isSome_iff_exists, List.coe_toFinset, List.mem_map,
      Prod.exists, exists_eq_right]
    constructor
    · rintro ⟨⟨i, b⟩, hw⟩
      exact ⟨i, (H.live i obj).mpr ⟨b, hw⟩⟩
    · rintro ⟨i, hmem⟩
      obtain ⟨b, hb⟩ := (H.live i obj).mp hmem
      exact ⟨_, hb⟩
  refine
    { single := H.keys, manager := fun i obj hmem => ?_, listener := fun a ha obj ho => ?_,
      once := H.once, destroyed := fun obj => ?_, faults := H.faults, count := ?_,
      linkUp := fun i ifIndex rest t hint hext hq hdown hstep => ?_,
      linkDown := fun obj w t hw hinactive hstep => ?_ }
  · obtain ⟨b, hb⟩ := (H.live i obj).mp hmem
    exact ⟨_, hb, rfl⟩
  · obtain ⟨event, hmem⟩ := H.lists.owner_mem ha ho
    rcases mem_registrations.mp hmem with ⟨e, -, he⟩ | ⟨q, hq, e, -, he⟩
    · exact Or.inl (Prod.mk.inj he).2
    · obtain rfl : obj = q.2 := (Prod.mk.inj he).2
      obtain ⟨b, hb⟩ := (H.live q.1 q.2).mp hq
      exact Or.inr (by simp [hb])
  · constructor
    · intro ho
      have := (H.made obj).mp (Or.inr ho)
      exact ⟨this.1, this.2, H.gone obj ho⟩
    · rintro ⟨h1, h2, h3⟩
      rcases (H.made obj).mpr ⟨h1, h2⟩ with ⟨w, hw⟩ | ho
      · simp [h3] at hw
      · exact ho
  · rw [hptr, Set.ncard_coe_finset, List.toFinset_card_of_nodup H.ptrs, List.length_map, H.count]
  · have hcat : s.ifCat i = .unknownIf := by rw [H.cat, hdown]; rfl
    have hnone : s.objs s.fresh = none := by
      rw [Option.eq_none_iff_forall_ne_some]
      exact fun w hw => absurd (H.obj_pos hw).2 (lt_irrefl _)
    have hok := H.step hstep
    obtain ⟨rfl, hgood⟩ := hstep
    have hnew := (H.linkUp rest hint hq hcat
      (hgood rfl i ⟨hint, hcat, ifIndex, rest, hext, hq⟩)).2
    rw [run, H.serve_linkUp hint hext] at hok ⊢
    exact ⟨hnone, hnew, (hok.live _ _).mpr ⟨true, hnew⟩⟩
  · obtain ⟨i, b⟩ := w
    obtain rfl : b = false := hinactive
    have hmem := (H.pending i).mpr ⟨obj, hw⟩
    obtain ⟨j, rest, hint⟩ : ∃ j rest, s.internal = j :: rest :=
      List.exists_cons_of_ne_nil (List.ne_nil_of_mem hmem)
    obtain ⟨obj', hobj', hone, heq⟩ := H.serve_deleteSelf hint
    rw [hone, List.mem_singleton] at hmem
    subst hmem
    obtain rfl := (H.unique hw hobj').1
    rw [hstep.1, run, heq]
    simp [delete]

/-- **A third instance.**  A link-up that finds two instances registers an object that does not exist
any more. -/
theorem Ok.third (H : s.Ok query) (rest : List LinkEvt) (hint : s.internal = [])
    (hext : s.external = .up ifIndex :: rest) (hq : query ifIndex = some i)
    (hcat : s.ifCat i = .unknownIf) (hnum : 2 ≤ s.numWlanApIface) :
    (i, s.fresh) ∈ (s.serve query).instances ∧ (s.serve query).objs s.fresh = none := by
  have heq := H.wlanApLinkUp_eq rest hint hq hcat
  simp only at heq
  rw [H.serve_linkUp hint hext, heq, newWlan, if_pos (by simp only; omega)]
  simp [delete]

end Invariant

end IfaceSys

/-! ## The life cycle -/

/-- **The life cycle of the instances is sound** in every run in which no link-up makes a third
instance. -/
theorem life_cycle_of_run {query : ℕ → Option ℕ} {acts : List IfaceAct} {s : IfaceSys}
    (hr : Run (IfaceSys.Step query) IfaceSys.init acts s) : s.LifeCycle query :=
  (hr.invariant (P := IfaceSys.Ok query) (fun _ _ _ h hst => h.step hst) .init).lifeCycle

/-- An access point comes up and goes down, and is gone. -/
theorem life_cycle_of_run_up_down : ∃ s, Run (IfaceSys.Step some) IfaceSys.init
    [.post (.up 3), .post (.down 3), .serve, .serve, .serve] s ∧
      s.destroyed = [1] ∧ s.LifeCycle some := by
  have hr : Run (IfaceSys.Step some) IfaceSys.init
      [.post (.up 3), .post (.down 3), .serve, .serve, .serve] _ :=
    .cons ⟨rfl, by simp⟩ (.cons ⟨rfl, by simp⟩ (.cons ⟨rfl, fun _ _ _ => by decide +kernel⟩
      (.cons ⟨rfl, fun _ _ _ => by decide +kernel⟩ (.cons ⟨rfl, fun _ _ _ => by decide +kernel⟩
        (.nil _)))))
  exact ⟨_, hr, by decide +kernel, life_cycle_of_run hr⟩

/-- **Three access points** come up.  The object that is registered for the third one was destroyed
by its own constructor. -/
theorem life_cycle_third : ∃ s, Run (fun s a t => t = IfaceSys.run some s a) IfaceSys.init
    [.post (.up 1), .post (.up 2), .post (.up 3), .serve, .serve, .serve] s ∧
      (3, 3) ∈ s.instances ∧ s.objs 3 = none ∧ ¬ s.LifeCycle some := by
  have hr : Run (fun s a t => t = IfaceSys.run some s a) IfaceSys.init
      [.post (.up 1), .post (.up 2), .post (.up 3), .serve, .serve, .serve] _ :=
    .cons rfl (.cons rfl (.cons rfl (.cons rfl (.cons rfl (.cons rfl (.nil _))))))
  refine ⟨_, hr, by decide +kernel, by decide +kernel, fun h => ?_⟩
  obtain ⟨w, hw, -⟩ := h.manager 3 3 (by decide +kernel)
  exact absurd (Option.isSome_iff_exists.mpr ⟨w, hw⟩) (by decide +kernel)

end Ipacm
