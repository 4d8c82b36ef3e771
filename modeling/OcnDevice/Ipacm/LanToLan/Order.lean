import OcnDevice.Ipacm.LanToLan.Exact

/-!
# The order of client and interface events

`added evts p` is the plain meaning of the events: the clients added for an interface and not deleted
since it last went down.  The clients of an interface that is up should be these, in whatever order the
events came.  For an interface that is not up they are the clients whose add events are waiting, and here
the code misses a case: `handle_client_del` does not look at the events that are waiting, as
`clear_cached_client_add_event` does when an interface goes down.  A client that was added and deleted
before its interface came up is installed (`deleted_client_is_installed`).

In every run without such a deletion (`OrderlyStep`) the clients are the ones that they should be
(`clients_follow_events`).  The invariant that carries it is `Follows`.
-/

namespace Ipacm

/-- What an event does to the clients of an interface, by its meaning. -/
def LanToLanEvt.apply (p : ℕ) (ms : Finset Mac) : LanToLanEvt → Finset Mac
  | .ifaceUp _ _ => ms
  | .ifaceDown q => if q = p then ∅ else ms
  | .clientAdd e => if e.pIface = p then insert e.macAddr ms else ms
  | .clientDel e => if e.pIface = p then ms.erase e.macAddr else ms

/-- The clients added for an interface and not deleted since it last went down. -/
def added (evts : List LanToLanEvt) (p : ℕ) : Finset Mac :=
  evts.foldl (fun ms evt => evt.apply p ms) ∅

lemma added_concat {evts : List LanToLanEvt} {evt : LanToLanEvt} {p : ℕ} :
    added (evts ++ [evt]) p = evt.apply p (added evts p) := by
  simp [added]

namespace LanToLan

variable {lan : ℕ → LanProps} {s t u : LanToLan} {a b c p : ℕ} {ip : IpType} {e : EthBridgeEvt}
  {m : Mac}

/-- There is room for what the event adds: for a client of an interface that is up, or for one more event
that waits. -/
def room (s : LanToLan) : LanToLanEvt → Bool
  | .clientAdd e =>
      match s.findIface e.pIface with
      | some a => e.macAddr ∈ s.macs a ∨ (s.node a).clientInfo.length < maxNumClient
      | none => s.cachedClientAddEvent.length < maxNumCachedClientAddEvent
  | .ifaceUp p _ => (s.findIface p).isSome || s.iface.length < maxNumIface
  | _ => true

/-! ## What the operations do to the clients -/

/-- One interface gets other clients; nothing else that a client event can see changes. -/
structure OnlyAt (s t : LanToLan) (a : ℕ) (ms : Finset Mac) : Prop where
  iface : t.iface = s.iface
  cached : t.cachedClientAddEvent = s.cachedClientAddEvent
  pIface : ∀ b, (t.node b).pIface = (s.node b).pIface
  self : (t.macs a).toFinset = ms
  ne : ∀ b ∈ s.iface, b ≠ a → t.macs b = s.macs b

lemma macs_eq : s.macs a = (s.skel.node a).clientInfo.map s.skel.mac := rfl

lemma OnlyAt.rfl' : s.OnlyAt s a (s.macs a).toFinset := ⟨rfl, rfl, fun _ => rfl, rfl, fun _ _ _ => rfl⟩

/-- **A client joins an interface.** -/
lemma Ok.addClient_onlyAt (H : s.Ok lan) (ha : a ∈ s.iface) (hnew : m ∉ s.macs a)
    (hroom : (s.node a).clientInfo.length ≠ maxNumClient) :
    s.OnlyAt (s.ifaceHandleClientAdd lan a m) a (insert m (s.macs a).toFinset) := by
  have hskel := (H.addClient ha hnew hroom).2
  set t := s.ifaceHandleClientAdd lan a m with ht
  set c := newAddr s.clients (s.alloc 0) with hc
  have hfresh : c ∉ s.clients := newAddr_not_mem _ _
  have hmac : ∀ b ∈ s.iface, (s.node b).clientInfo.map t.skel.mac = s.macs b := by
    intro b hb
    refine List.map_congr_left fun d hd => ?_
    have hne : d ≠ c := fun h => hfresh (h ▸ mem_clients hb hd)
    rw [hskel]
    exact Function.update_of_ne hne ..
  refine ⟨(congrArg Skeleton.iface hskel :), (congrArg Skeleton.cached hskel :), fun b => ?_, ?_,
    fun b hb hba => ?_⟩
  · have hsame : s.skel.SameButClients t.skel := hskel ▸ Skeleton.addClient_same
    exact (congrArg LanToLanIface.pIface (hsame.node b) :)
  · have hnode : (t.skel.node a).clientInfo = c :: (s.node a).clientInfo := by
      rw [hskel, Skeleton.addClient_self]
      rfl
    have hself : t.skel.mac c = m := by
      rw [hskel]
      exact Function.update_self ..
    rw [macs_eq, hnode, List.map_cons, hmac a ha, hself, List.toFinset_cons]
  · have hnode : (t.skel.node b).clientInfo = (s.node b).clientInfo := by
      rw [hskel, Skeleton.addClient_ne hba]
      rfl
    rw [macs_eq, hnode, hmac b hb]

/-- **A client leaves an interface.** -/
lemma Ok.dropClient_onlyAt (H : s.Ok lan) (ha : a ∈ s.iface)
    (hfind : ((s.node a).clientInfo.find? fun c => (s.client c).macAddr = m) = some c) :
    s.OnlyAt (s.ifaceHandleClientDel lan a m) a ((s.macs a).toFinset.erase m) := by
  have hskel := (H.dropClient ha hfind).2
  set t := s.ifaceHandleClientDel lan a m with ht
  refine ⟨(congrArg Skeleton.iface hskel :), (congrArg Skeleton.cached hskel :), fun b => ?_, ?_,
    fun b _ hba => ?_⟩
  · have hsame : s.skel.SameButClients t.skel := hskel ▸ Skeleton.dropClient_same
    exact (congrArg LanToLanIface.pIface (hsame.node b) :)
  · have hnode : (t.skel.node a).clientInfo = (s.node a).clientInfo.erase c := by
      rw [hskel, Skeleton.dropClient_self]
      rfl
    have hcm : s.mac c = m := by
      have h := List.find?_some hfind
      exact of_decide_eq_true h
    have hc : c ∈ (s.node a).clientInfo := List.mem_of_find?_eq_some hfind
    have hnd : (s.node a).clientInfo.Nodup := nodup_clientInfo H.filled.clients ha
    have hinj := List.inj_on_of_nodup_map (H.topo.macs a ha)
    rw [macs_eq, hnode, hskel]
    ext m'
    simp only [List.mem_toFinset, Finset.mem_erase]
    show m' ∈ ((s.node a).clientInfo.erase c).map s.mac ↔ m' ≠ m ∧ m' ∈ s.macs a
    rw [LanToLan.macs, List.mem_map, List.mem_map]
    constructor
    · rintro ⟨d, hd, rfl⟩
      obtain ⟨hdc, hd⟩ := hnd.mem_erase_iff.mp hd
      exact ⟨fun h => hdc (hinj hd hc (h.trans hcm.symm)), d, hd, rfl⟩
    · rintro ⟨hne, d, hd, rfl⟩
      refine ⟨d, hnd.mem_erase_iff.mpr ⟨?_, hd⟩, rfl⟩
      rintro rfl
      exact hne hcm
  · rw [macs_eq, hskel, Skeleton.dropClient_ne hba]
    rfl

/-- **`IPACM_LanToLan_Iface::handle_client_add`**, when there is room. -/
lemma Ok.clientAdd_onlyAt (H : s.Ok lan) (ha : a ∈ s.iface)
    (hroom : m ∈ s.macs a ∨ (s.node a).clientInfo.length < maxNumClient) :
    s.OnlyAt (s.ifaceHandleClientAdd lan a m) a (insert m (s.macs a).toFinset) := by
  by_cases hmem : m ∈ s.macs a
  · have hany : (s.node a).clientInfo.any (fun c => (s.client c).macAddr = m) = true := by
      obtain ⟨c, hc, hm⟩ := List.mem_map.mp hmem
      exact List.any_eq_true.mpr ⟨c, hc, decide_eq_true hm⟩
    rw [ifaceHandleClientAdd, if_pos hany, Finset.insert_eq_of_mem (List.mem_toFinset.mpr hmem)]
    exact .rfl'
  · exact H.addClient_onlyAt ha hmem (hroom.resolve_left hmem).ne

/-- **`IPACM_LanToLan_Iface::handle_client_del`**. -/
lemma Ok.clientDel_onlyAt (H : s.Ok lan) (ha : a ∈ s.iface) :
    s.OnlyAt (s.ifaceHandleClientDel lan a m) a ((s.macs a).toFinset.erase m) := by
  cases hc : (s.node a).clientInfo.find? fun c => (s.client c).macAddr = m with
  | some c => exact H.dropClient_onlyAt ha hc
  | none =>
      have hnot : m ∉ (s.macs a).toFinset := by
        rw [List.mem_toFinset]
        intro hmem
        obtain ⟨c, hcl, hm⟩ := List.mem_map.mp hmem
        exact List.find?_eq_none.mp hc c hcl (decide_eq_true hm)
      rw [ifaceHandleClientDel, hc, Finset.erase_eq_of_notMem hnot]
      exact .rfl'

lemma findIface_eq (H : s.Ok lan) (ha : a ∈ s.iface) : s.findIface (s.node a).pIface = some a := by
  cases hfind : s.findIface (s.node a).pIface with
  | some b =>
      obtain ⟨hb, hp⟩ := findIface_some hfind
      rw [H.topo.pIface b hb a ha hp]
  | none => exact absurd rfl (findIface_none hfind a ha)

lemma OnlyAt.trans {ms ms' : Finset Mac} (h : s.OnlyAt t a ms) (h' : t.OnlyAt u a ms') :
    s.OnlyAt u a ms' where
  iface := h'.iface.trans h.iface
  cached := h'.cached.trans h.cached
  pIface b := (h'.pIface b).trans (h.pIface b)
  self := h'.self
  ne b hb hba := (h'.ne b (h.iface ▸ hb) hba).trans (h.ne b hb hba)

/-- **The clients that are waiting join their interface.** -/
lemma Ok.replay (H : s.Ok lan) (ha : a ∈ s.iface) (l : List EthBridgeEvt)
    (hl : ∀ e ∈ l, e.pIface = (s.node a).pIface)
    (hroom : (s.node a).clientInfo.length + l.length ≤ maxNumClient) :
    (l.foldl (fun s e => s.handleClientAdd lan e) s).Ok lan ∧
      s.OnlyAt (l.foldl (fun s e => s.handleClientAdd lan e) s) a
        ((s.macs a).toFinset ∪ (l.map (·.macAddr)).toFinset) := by
  induction l generalizing s with
  | nil => exact ⟨H, by simpa using OnlyAt.rfl'⟩
  | cons e l ih =>
      rw [List.length_cons] at hroom
      have hrun : s.handleClientAdd lan e = s.ifaceHandleClientAdd lan a e.macAddr := by
        rw [LanToLan.handleClientAdd, hl e List.mem_cons_self, findIface_eq H ha]
      have hadd := H.clientAdd_onlyAt (m := e.macAddr) ha (Or.inr (by omega))
      rw [← hrun] at hadd
      set t := s.handleClientAdd lan e with ht
      have Ht : t.Ok lan := H.handleClientAdd
      have hat : a ∈ t.iface := hadd.iface ▸ ha
      -- the list of clients is as long as the set of their addresses is large
      have hlen : ∀ {v : LanToLan}, v.Ok lan → a ∈ v.iface →
          (v.node a).clientInfo.length = (v.macs a).toFinset.card := by
        intro v Hv hav
        have hnd : (v.macs a).Nodup := Hv.topo.macs a hav
        rw [List.toFinset_card_of_nodup hnd, LanToLan.macs, List.length_map]
      have hcard : (t.node a).clientInfo.length ≤ (s.node a).clientInfo.length + 1 := by
        rw [hlen Ht hat, hlen H ha, hadd.self]
        exact Finset.card_insert_le _ _
      obtain ⟨Hu, hu⟩ := ih Ht hat
        (fun e' he' => (hl e' (List.mem_cons_of_mem _ he')).trans (hadd.pIface a).symm) (by omega)
      refine ⟨Hu, ?_⟩
      have htrans := hadd.trans hu
      rw [hadd.self] at htrans
      rw [List.map_cons, List.toFinset_cons, Finset.union_insert, ← Finset.insert_union]
      exact htrans

/-! ## The invariant -/

/-- The clients of the interfaces that are up, and the events that are waiting for the others, are the
clients that there should be. -/
structure Follows (lan : ℕ → LanProps) (s : LanToLan) (A : ℕ → Finset Mac) : Prop where
  ok : s.Ok lan
  up : ∀ a ∈ s.iface, (s.macs a).toFinset = A (s.node a).pIface
  down : ∀ p, s.findIface p = none → ∀ m, m ∈ A p ↔ ⟨p, m⟩ ∈ s.cachedClientAddEvent
  wait : ∀ e ∈ s.cachedClientAddEvent, s.findIface e.pIface = none
  room : s.cachedClientAddEvent.length ≤ maxNumCachedClientAddEvent

/-- A step with room for what it adds, in which no client is deleted while an add event of it is waiting
for its interface. -/
structure OrderlyStep (lan : ℕ → LanProps) (s : LanToLan) (evt : LanToLanEvt) (t : LanToLan) :
    Prop where
  step : Step lan s evt t
  room : s.room evt = true
  del : ∀ e, evt = .clientDel e → e ∉ s.cachedClientAddEvent

/-- Nothing has been added at the start. -/
lemma Follows.init {flt rt ctx alloc : ℕ → ℕ} :
    (LanToLan.init flt rt ctx alloc).Follows lan (added []) where
  ok := Ok.init
  up a ha := absurd ha List.not_mem_nil
  down p _ m := by simp [added, LanToLan.init]
  wait e he := absurd he List.not_mem_nil
  room := Nat.zero_le _

lemma findIface_congr (hi : t.iface = s.iface)
    (hp : ∀ b ∈ s.iface, (t.node b).pIface = (s.node b).pIface) : t.findIface p = s.findIface p := by
  rw [findIface, findIface, hi]
  refine List.find?_congr fun b hb => ?_
  rw [hp b hb]

lemma findIface_eq_none : s.findIface p = none ↔ ∀ b ∈ s.iface, (s.node b).pIface ≠ p := by
  refine ⟨findIface_none, fun h => List.find?_eq_none.mpr fun b hb => ?_⟩
  simpa using h b hb

variable {A : ℕ → Finset Mac} {evt : LanToLanEvt}

/-- **One interface that is up gets other clients.** -/
lemma Follows.onlyAt (F : s.Follows lan A) (ht : t.Ok lan) (ha : a ∈ s.iface) (ms : Finset Mac)
    (h : s.OnlyAt t a ms) (hms : evt.apply (s.node a).pIface (A (s.node a).pIface) = ms)
    (hother : ∀ p, p ≠ (s.node a).pIface → evt.apply p (A p) = A p) :
    t.Follows lan fun p => evt.apply p (A p) := by
  have hfind : ∀ p, t.findIface p = s.findIface p := fun p =>
    findIface_congr h.iface fun b _ => h.pIface b
  refine ⟨ht, fun b hb => ?_, fun p hp m => ?_, fun e he => ?_, h.cached ▸ F.room⟩
  · rw [h.iface] at hb
    rw [h.pIface]
    rcases eq_or_ne b a with rfl | hba
    · rw [h.self, hms]
    · rw [h.ne b hb hba, F.up b hb, hother]
      exact fun heq => hba (F.ok.topo.pIface b hb a ha heq)
  · rw [hfind] at hp
    have hne : p ≠ (s.node a).pIface := fun heq => findIface_none hp a ha heq.symm
    rw [hother p hne, h.cached]
    exact F.down p hp m
  · rw [h.cached] at he
    rw [hfind]
    exact F.wait e he

/-- Nothing changes that a client event can see, and nothing should. -/
lemma Follows.same (F : s.Follows lan A) (hA : ∀ p, evt.apply p (A p) = A p) :
    s.Follows lan fun p => evt.apply p (A p) := by
  have heq : (fun p => evt.apply p (A p)) = A := funext hA
  rw [heq]
  exact F

/-- **A client is added.** -/
lemma Follows.clientAdd (F : s.Follows lan A) (hroom : s.room (.clientAdd e) = true) :
    (s.handleClientAdd lan e).Follows lan fun p => (LanToLanEvt.clientAdd e).apply p (A p) := by
  have ht : (s.handleClientAdd lan e).Ok lan := F.ok.handleClientAdd
  rw [LanToLan.room] at hroom
  cases hfind : s.findIface e.pIface with
  | some a =>
      obtain ⟨ha, hp⟩ := findIface_some hfind
      simp only [hfind, decide_eq_true_eq] at hroom
      have hrun : s.handleClientAdd lan e = s.ifaceHandleClientAdd lan a e.macAddr := by
        rw [handleClientAdd, hfind]
      rw [hrun] at ht ⊢
      refine F.onlyAt ht ha _ (F.ok.clientAdd_onlyAt ha hroom) ?_ fun p hpa => ?_
      · rw [LanToLanEvt.apply, if_pos hp.symm, F.up a ha]
      · rw [LanToLanEvt.apply, if_neg fun h => hpa (h.symm.trans hp.symm)]
  | none =>
      simp only [hfind, decide_eq_true_eq] at hroom
      have hrun : s.handleClientAdd lan e =
          { s with cachedClientAddEvent := e :: s.cachedClientAddEvent } := by
        rw [handleClientAdd, hfind]
        exact if_pos hroom
      rw [hrun] at ht ⊢
      refine ⟨ht, fun b hb => ?_, fun p hp m => ?_, fun e' he' => ?_, hroom⟩
      · have hne : e.pIface ≠ (s.node b).pIface := fun h => findIface_none hfind b hb h.symm
        rw [LanToLanEvt.apply]
        show (s.macs b).toFinset = if e.pIface = (s.node b).pIface then _ else _
        rw [if_neg hne]
        exact F.up b hb
      · rw [LanToLanEvt.apply, List.mem_cons, ← F.down p hp m]
        split_ifs with h
        · subst h
          rw [Finset.mem_insert]
          refine or_congr_left ⟨?_, ?_⟩
          · rintro rfl
            rfl
          · exact fun h => (congrArg EthBridgeEvt.macAddr h :)
        · refine ⟨Or.inr, fun h' => h'.resolve_left fun h' => h ?_⟩
          exact (congrArg EthBridgeEvt.pIface h' :).symm
      · rcases List.mem_cons.mp he' with rfl | he'
        · exact hfind
        · exact F.wait e' he'

/-- **A client is deleted**, with no add event of it waiting. -/
lemma Follows.clientDel (F : s.Follows lan A) (hdel : e ∉ s.cachedClientAddEvent) :
    (s.handleClientDel lan e).Follows lan fun p => (LanToLanEvt.clientDel e).apply p (A p) := by
  have ht : (s.handleClientDel lan e).Ok lan := F.ok.handleClientDel
  cases hfind : s.findIface e.pIface with
  | some a =>
      obtain ⟨ha, hp⟩ := findIface_some hfind
      have hrun : s.handleClientDel lan e = s.ifaceHandleClientDel lan a e.macAddr := by
        rw [handleClientDel, hfind]
      rw [hrun] at ht ⊢
      refine F.onlyAt ht ha _ (F.ok.clientDel_onlyAt ha) ?_ fun p hpa => ?_
      · rw [LanToLanEvt.apply, if_pos hp.symm, F.up a ha]
      · rw [LanToLanEvt.apply, if_neg fun h => hpa (h.symm.trans hp.symm)]
  | none =>
      have hrun : s.handleClientDel lan e = s := by rw [handleClientDel, hfind]
      rw [hrun]
      refine F.same fun p => ?_
      rw [LanToLanEvt.apply]
      split_ifs with h
      · refine Finset.erase_eq_of_notMem fun hm => hdel ?_
        exact (F.down p (h ▸ hfind) e.macAddr).mp hm |> fun h' => by rwa [← h] at h'
      · rfl

/-- **An interface comes up**, and the clients that are waiting join it. -/
lemma Follows.ifaceUp (F : s.Follows lan A) :
    (s.handleIfaceUp lan p ip).Follows lan fun q => (LanToLanEvt.ifaceUp p ip).apply q (A q) := by
  have ht : (s.handleIfaceUp lan p ip).Ok lan := F.ok.handleIfaceUp
  cases hfind : s.findIface p with
  | some a =>
      obtain ⟨ha, hp⟩ := findIface_some hfind
      cases hass : (s.node a).isIpAddrAssigned ip with
      | true =>
          have hrun : s.handleIfaceUp lan p ip = s := by
            rw [handleIfaceUp, hfind]
            simp only [hass, Bool.true_eq_false, if_false]
          rw [hrun]
          exact F.same fun _ => rfl
      | false =>
          have hskel := (F.ok.assign ha hfind hass).2
          refine F.onlyAt ht ha (s.macs a).toFinset ⟨(congrArg Skeleton.iface hskel :),
            (congrArg Skeleton.cached hskel :), fun b => ?_, ?_, fun b _ _ => ?_⟩
            (F.up a ha).symm fun _ _ => rfl
          · show ((s.handleIfaceUp lan p ip).skel.node b).pIface = _
            rw [hskel, Skeleton.assign_node]
            rfl
          · rw [macs_eq, hskel, Skeleton.assign_node]
            rfl
          · rw [macs_eq, hskel, Skeleton.assign_node]
            rfl
  | none =>
      rw [handleIfaceUp_new hfind] at ht ⊢
      split_ifs at ht ⊢
      · exact F.same fun _ => rfl
      · exact F.same fun _ => rfl
      · exact F.same fun _ => rfl
      · set a := newAddr s.iface (s.alloc 0) with ha
        have hnew : a ∉ s.iface := newAddr_not_mem _ _
        obtain ⟨Hu, J⟩ := F.ok.joinIface ip hnew (findIface_none hfind)
        set u := joinIface lan s a p ip with hu
        have hiface : u.iface = a :: s.iface := J.iface
        have hcached : u.cachedClientAddEvent = s.cachedClientAddEvent := J.cached
        have hself : (u.node a).clientInfo = [] ∧ (u.node a).pIface = p := by
          show (u.skel.node a).clientInfo = [] ∧ (u.skel.node a).pIface = p
          rw [J.new]
          exact ⟨rfl, rfl⟩
        have hold : ∀ b ∈ s.iface, u.macs b = s.macs b ∧ (u.node b).pIface = (s.node b).pIface := by
          intro b hb
          rw [macs_eq, J.mac]
          show (u.skel.node b).clientInfo.map _ = _ ∧ (u.skel.node b).pIface = _
          rw [J.old b hb]
          exact ⟨rfl, rfl⟩
        have hau : a ∈ u.iface := hiface ▸ List.mem_cons_self
        set l := u.cachedClientAddEvent.filter fun e => e.pIface = p with hl
        have hmem : ∀ e, e ∈ l ↔ e ∈ s.cachedClientAddEvent ∧ e.pIface = p := by
          intro e
          rw [hl, hcached, List.mem_filter, decide_eq_true_eq]
        have hlen : l.length ≤ maxNumCachedClientAddEvent :=
          (List.length_filter_le _ _).trans (hcached ▸ F.room)
        obtain ⟨-, hv⟩ := Hu.replay hau l (fun e he => ((hmem e).mp he).2.trans hself.2.symm) (by
          rw [hself.1, List.length_nil, zero_add]
          exact hlen.trans (by decide))
        set v := l.foldl (fun s e => s.handleClientAdd lan e) u with hvdef
        set w := u.handleCachedClientAddEvent lan p with hw
        have hwiface : w.iface = a :: s.iface := hv.iface.trans hiface
        have hwp : ∀ b ∈ s.iface, (w.node b).pIface = (s.node b).pIface := fun b hb =>
          (hv.pIface b).trans (hold b hb).2
        have hwa : (w.node a).pIface = p := (hv.pIface a).trans hself.2
        have hwc : ∀ e, e ∈ w.cachedClientAddEvent ↔ e ∈ s.cachedClientAddEvent ∧ e.pIface ≠ p := by
          intro e
          show e ∈ v.cachedClientAddEvent.filter _ ↔ _
          rw [hv.cached, hcached, List.mem_filter, decide_eq_true_eq]
        have hfindw : ∀ q, w.findIface q = none ↔ q ≠ p ∧ s.findIface q = none := by
          intro q
          rw [findIface_eq_none, findIface_eq_none, hwiface, List.forall_mem_cons, hwa]
          refine and_congr ne_comm (forall₂_congr fun b hb => ?_)
          rw [hwp b hb]
        refine ⟨ht, fun b hb => ?_, fun q hq m => ?_, fun e he => ?_, ?_⟩
        · rw [hwiface, List.mem_cons] at hb
          rcases hb with rfl | hb
          · -- the new interface has exactly those that were waiting
            have hnil : u.macs a = [] := by rw [LanToLan.macs, hself.1, List.map_nil]
            have hmacs : (w.macs a).toFinset = (l.map (·.macAddr)).toFinset := by
              have h := hv.self
              rwa [hnil, List.toFinset_nil, Finset.empty_union] at h
            rw [hmacs, hwa]
            ext m
            rw [List.mem_toFinset, List.mem_map, LanToLanEvt.apply, F.down p hfind]
            constructor
            · rintro ⟨e, he, rfl⟩
              obtain ⟨hcache, hep⟩ := (hmem e).mp he
              rw [← hep]
              exact hcache
            · exact fun h => ⟨⟨p, m⟩, (hmem _).mpr ⟨h, rfl⟩, rfl⟩
          · have hba : b ≠ a := fun h => hnew (h ▸ hb)
            have hmacs : w.macs b = s.macs b :=
              (hv.ne b (hiface ▸ List.mem_cons_of_mem _ hb) hba).trans (hold b hb).1
            rw [hmacs, hwp b hb]
            exact F.up b hb
        · obtain ⟨hqp, hq⟩ := (hfindw q).mp hq
          rw [LanToLanEvt.apply, F.down q hq, hwc]
          exact ⟨fun h => ⟨h, hqp⟩, And.left⟩
        · obtain ⟨he, hne⟩ := (hwc e).mp he
          exact (hfindw _).mpr ⟨hne, F.wait e he⟩
        · show (v.cachedClientAddEvent.filter _).length ≤ _
          rw [hv.cached, hcached]
          exact (List.length_filter_le _ _).trans F.room

/-- **An interface goes down**, or the clients that are waiting for it are forgotten. -/
lemma Follows.ifaceDown (F : s.Follows lan A) :
    (s.handleIfaceDown lan p).Follows lan fun q => (LanToLanEvt.ifaceDown p).apply q (A q) := by
  have ht : (s.handleIfaceDown lan p).Ok lan := F.ok.handleIfaceDown
  cases hfind : s.findIface p with
  | some a =>
      obtain ⟨ha, hp⟩ := findIface_some hfind
      have P := (F.ok.ifaceDown hfind).2
      set t := s.handleIfaceDown lan p with htdef
      have hiface : t.iface = s.iface.erase a := P.iface
      have hcached : t.cachedClientAddEvent = s.cachedClientAddEvent := P.cached
      have hmem : ∀ b, b ∈ t.iface ↔ b ≠ a ∧ b ∈ s.iface := by
        intro b
        rw [hiface, F.ok.filled.iface.mem_erase_iff]
      have hold : ∀ b, b ≠ a → t.macs b = s.macs b ∧ (t.node b).pIface = (s.node b).pIface := by
        intro b hb
        rw [macs_eq, P.mac]
        show (t.skel.node b).clientInfo.map _ = _ ∧ (t.skel.node b).pIface = _
        rw [P.node b hb]
        exact ⟨rfl, rfl⟩
      have hfindt : ∀ q, t.findIface q = none ↔ q = p ∨ s.findIface q = none := by
        intro q
        rw [findIface_eq_none, findIface_eq_none]
        constructor
        · intro h
          by_contra hne
          rw [not_or] at hne
          refine hne.2 fun b hb => ?_
          rcases eq_or_ne b a with rfl | hba
          · exact fun heq => hne.1 (heq.symm.trans hp)
          · rw [← (hold b hba).2]
            exact h b ((hmem b).mpr ⟨hba, hb⟩)
        · rintro (rfl | h) b hb
          · obtain ⟨hba, hb⟩ := (hmem b).mp hb
            rw [(hold b hba).2]
            exact fun heq => hba (F.ok.topo.pIface b hb a ha (heq.trans hp.symm))
          · obtain ⟨hba, hb⟩ := (hmem b).mp hb
            rw [(hold b hba).2]
            exact h b hb
      refine ⟨ht, fun b hb => ?_, fun q hq m => ?_, fun e he => ?_, hcached ▸ F.room⟩
      · obtain ⟨hba, hb⟩ := (hmem b).mp hb
        have hne : p ≠ (s.node b).pIface := fun heq =>
          hba (F.ok.topo.pIface b hb a ha (heq.symm.trans hp.symm))
        rw [(hold b hba).1, (hold b hba).2, LanToLanEvt.apply, if_neg hne]
        exact F.up b hb
      · rw [hcached, LanToLanEvt.apply]
        split_ifs with h
        · subst h
          refine ⟨fun hm => absurd hm (Finset.notMem_empty m), fun he => ?_⟩
          have hnone := F.wait _ he
          rw [hfind] at hnone
          exact absurd hnone (Option.some_ne_none a)
        · exact F.down q (((hfindt q).mp hq).resolve_left (Ne.symm h)) m
      · rw [hcached] at he
        exact (hfindt _).mpr (Or.inr (F.wait e he))
  | none =>
      have hrun : s.handleIfaceDown lan p = s.clearCachedClientAddEvent p := by
        rw [handleIfaceDown, hfind]
      rw [hrun] at ht ⊢
      have hmem : ∀ e, e ∈ (s.clearCachedClientAddEvent p).cachedClientAddEvent ↔
          e ∈ s.cachedClientAddEvent ∧ e.pIface ≠ p := by
        intro e
        rw [clearCachedClientAddEvent, List.mem_filter, decide_eq_true_eq]
      refine ⟨ht, fun b hb => ?_, fun q hq m => ?_, fun e he => F.wait e ((hmem e).mp he).1,
        (List.length_filter_le _ _).trans F.room⟩
      · have hne : p ≠ (s.node b).pIface := fun h => findIface_none hfind b hb h.symm
        rw [LanToLanEvt.apply]
        show (s.macs b).toFinset = if p = (s.node b).pIface then _ else _
        rw [if_neg hne]
        exact F.up b hb
      · rw [hmem, LanToLanEvt.apply, ← F.down q hq m]
        split_ifs with h
        · exact ⟨fun hm => absurd hm (Finset.notMem_empty m), fun hm => absurd h.symm hm.2⟩
        · exact ⟨fun hm => ⟨hm, Ne.symm h⟩, And.left⟩

/-- **Every orderly step keeps the invariant.** -/
theorem Follows.step (F : s.Follows lan A) (hst : OrderlyStep lan s evt t) :
    t.Follows lan fun p => evt.apply p (A p) := by
  have heq := hst.step
  rw [Step] at heq
  rw [heq]
  cases evt with
  | ifaceUp p ip => exact F.ifaceUp
  | ifaceDown p => exact F.ifaceDown
  | clientAdd e => exact F.clientAdd hst.room
  | clientDel e => exact F.clientDel (hst.del e rfl)

/-- **The order of client and interface events does not matter** in a run in which no client is deleted
while an add event of it is waiting for its interface: the clients of an interface that is up are those
added for it and not deleted since it last went down, each once. -/
theorem clients_follow_events {flt rt ctx alloc : ℕ → ℕ} {evts : List LanToLanEvt}
    (hr : Run (OrderlyStep lan) (init flt rt ctx alloc) evts s) :
    ∀ a ∈ s.iface, (s.macs a).Nodup ∧ (s.macs a).toFinset = added evts (s.node a).pIface := by
  have F : s.Follows lan (added evts) := hr.history
    (P := fun evts s => s.Follows lan (added evts)) (fun evts s evt t F hst => by
      have heq : added (evts ++ [evt]) = fun p => evt.apply p (added evts p) :=
        funext fun p => added_concat
      rw [heq]
      exact F.step hst) Follows.init
  exact fun a ha => ⟨F.ok.topo.macs a ha, F.up a ha⟩

/-- Clients come before and after their interface, one of them goes, and another interface goes down. -/
theorem clients_follow_events_two : ∃ s, Run (OrderlyStep lanOfThree) (init id id id id)
    [.clientAdd ⟨0, 10⟩, .clientAdd ⟨1, 20⟩, .ifaceUp 0 .v4, .clientAdd ⟨0, 11⟩,
      .clientDel ⟨0, 10⟩, .ifaceUp 1 .v6, .ifaceDown 1, .clientAdd ⟨1, 21⟩, .ifaceUp 1 .v4] s ∧
      ∀ a ∈ s.iface, (s.macs a).Nodup ∧ (s.macs a).toFinset =
        added [.clientAdd ⟨0, 10⟩, .clientAdd ⟨1, 20⟩, .ifaceUp 0 .v4, .clientAdd ⟨0, 11⟩,
          .clientDel ⟨0, 10⟩, .ifaceUp 1 .v6, .ifaceDown 1, .clientAdd ⟨1, 21⟩,
          .ifaceUp 1 .v4] (s.node a).pIface := by
  have hr : Run (OrderlyStep lanOfThree) (init id id id id)
      [.clientAdd ⟨0, 10⟩, .clientAdd ⟨1, 20⟩, .ifaceUp 0 .v4, .clientAdd ⟨0, 11⟩,
        .clientDel ⟨0, 10⟩, .ifaceUp 1 .v6, .ifaceDown 1, .clientAdd ⟨1, 21⟩, .ifaceUp 1 .v4] _ :=
    .cons ⟨rfl, by decide +kernel, nofun⟩ (.cons ⟨rfl, by decide +kernel, nofun⟩
      (.cons ⟨rfl, by decide +kernel, nofun⟩ (.cons ⟨rfl, by decide +kernel, nofun⟩
        (.cons ⟨rfl, by decide +kernel, by rintro e ⟨⟩; decide +kernel⟩
          (.cons ⟨rfl, by decide +kernel, nofun⟩ (.cons ⟨rfl, by decide +kernel, nofun⟩
            (.cons ⟨rfl, by decide +kernel, nofun⟩ (.cons ⟨rfl, by decide +kernel, nofun⟩
              (.nil _)))))))))
  exact ⟨_, hr, clients_follow_events hr⟩

/-- **A client that was deleted before its interface came up is installed**, with room for everything. -/
theorem deleted_client_is_installed :
    ∃ s, Run (fun s evt t => Step lanOfThree s evt t ∧ s.room evt = true) (init id id id id)
      [.clientAdd ⟨0, 10⟩, .clientDel ⟨0, 10⟩, .ifaceUp 0 .v4] s ∧
      ∃ a ∈ s.iface, (s.node a).pIface = 0 ∧ s.macs a = [10] ∧
        added [.clientAdd ⟨0, 10⟩, .clientDel ⟨0, 10⟩, .ifaceUp 0 .v4] 0 = ∅ ∧
        ¬ (s.macs a).toFinset =
          added [.clientAdd ⟨0, 10⟩, .clientDel ⟨0, 10⟩, .ifaceUp 0 .v4] (s.node a).pIface := by
  have hr : Run (fun s evt t => Step lanOfThree s evt t ∧ s.room evt = true) (init id id id id)
      [.clientAdd ⟨0, 10⟩, .clientDel ⟨0, 10⟩, .ifaceUp 0 .v4] _ :=
    .cons ⟨rfl, by decide +kernel⟩ (.cons ⟨rfl, by decide +kernel⟩
      (.cons ⟨rfl, by decide +kernel⟩ (.nil _)))
  exact ⟨_, hr, 0, by decide +kernel, by decide +kernel, by decide +kernel, by decide +kernel,
    by decide +kernel⟩

end LanToLan

end Ipacm
