import OcnDevice.Ipacm.LanToLan.Lists

/-!
# What the topology needs

`need k` says which rules and contexts a skeleton `k` asks for, and `Topo k` that its lists and counters
are consistent: two interfaces are peers of each other when both support offload between interfaces, and
the counters count the peers of each L2 type.  `LanToLan.Ok` is the invariant of LAN to LAN offload: the
skeleton is consistent, and the records are filled as it asks.

In this file a client joins an interface and leaves it.
-/

namespace Ipacm

namespace Skeleton

variable (lan : ℕ → LanProps) (k : Skeleton)

/-- The L2 type of an interface. -/
def l2 (a : ℕ) : IpaHdrL2Type := (lan (k.node a).pIface).hdrL2Type

/-- The peers of an interface. -/
def peers (a : ℕ) : List ℕ := (k.node a).peerIfaceInfo.map (·.peer)

/-- The rules and contexts that the topology needs. -/
def need : Cells where
  flt a b c ip := c ∈ (k.node b).clientInfo ∧ (k.node a).isIpAddrAssigned ip = true
  fltIntra a c ip := (k.node a).supportIntraIfaceOffload = true ∧ c ∈ (k.node a).clientInfo ∧
    (k.node a).isIpAddrAssigned ip = true
  rt a c t := c ∈ (k.node a).clientInfo ∧ ∃ b ∈ k.peers a, k.l2 lan b = t
  rtIntra a c := c ∈ (k.node a).clientInfo ∧ (k.node a).supportIntraIfaceOffload = true
  ctx a t := ∃ b ∈ k.peers a, k.l2 lan b = t
  ctxIntra a := (k.node a).supportIntraIfaceOffload = true

/-- The information about the interface itself is filled in. -/
def IntraOk (a : ℕ) : Prop :=
  (k.node a).intraInterfaceInfo.peer = a ∧
    (k.node a).intraInterfaceInfo.rtTblNameForRt = LanToLan.intraTblName ∧
    (k.node a).intraInterfaceInfo.rtTblNameForFlt = LanToLan.intraTblName

/-- The skeleton is consistent. -/
structure Topo : Prop where
  pIface : ∀ a ∈ k.iface, ∀ b ∈ k.iface, (k.node a).pIface = (k.node b).pIface → a = b
  inter : ∀ a ∈ k.iface, (k.node a).supportInterIfaceOffload =
    !((lan (k.node a).pIface).wlan && (lan (k.node a).pIface).isGuestAp)
  intra : ∀ a ∈ k.iface, (k.node a).supportIntraIfaceOffload = (lan (k.node a).pIface).wlan
  peers : ∀ a ∈ k.iface, ∀ b, b ∈ k.peers a ↔ b ∈ k.iface ∧ b ≠ a ∧
    (k.node a).supportInterIfaceOffload = true ∧ (k.node b).supportInterIfaceOffload = true
  names : ∀ a ∈ k.iface, ∀ q ∈ (k.node a).peerIfaceInfo,
    q.rtTblNameForRt = LanToLan.rtTblName (k.l2 lan q.peer) (k.l2 lan a) ∧
      q.rtTblNameForFlt = LanToLan.rtTblName (k.l2 lan a) (k.l2 lan q.peer)
  ref : ∀ a ∈ k.iface, ∀ t,
    (k.node a).refCntPeerL2HdrType t = (k.peers a).countP fun b => k.l2 lan b = t
  intraInfo : ∀ a ∈ k.iface, (k.node a).supportIntraIfaceOffload = true → k.IntraOk a
  macs : ∀ a ∈ k.iface, ((k.node a).clientInfo.map k.mac).Nodup

end Skeleton

/-- The address of a new node is free. -/
lemma newAddr_not_mem (used : List ℕ) (pick : ℕ) : newAddr used pick ∉ used := by
  rw [newAddr]
  split_ifs with h
  · intro hmem
    have hle : ∀ l : List ℕ, ∀ x ∈ l, x ≤ l.foldr max 0 := by
      intro l
      induction l with
      | nil => simp
      | cons y l ih =>
          intro x hx
          rcases List.mem_cons.mp hx with rfl | hx
          · exact le_max_left _ _
          · exact (ih x hx).trans (le_max_right _ _)
    exact absurd (hle used _ hmem) (by omega)
  · exact h

namespace LanToLan

variable {lan : ℕ → LanProps} {s t : LanToLan} {a b c p : ℕ} {F : Cells}

/-- **The invariant**: the skeleton is consistent, and the records are filled as it asks. -/
structure Ok (lan : ℕ → LanProps) (s : LanToLan) : Prop where
  topo : s.skel.Topo lan
  filled : Filled lan (s.skel.need lan) s

lemma mem_peers {q : PeerIfaceInfo} (hq : q ∈ (s.node a).peerIfaceInfo) :
    q.peer ∈ s.skel.peers a :=
  List.mem_map.mpr ⟨q.bare, List.mem_map_of_mem hq, rfl⟩

lemma exists_peer (hp : p ∈ s.skel.peers a) : ∃ q ∈ (s.node a).peerIfaceInfo, q.peer = p := by
  obtain ⟨q', hq', rfl⟩ := List.mem_map.mp hp
  obtain ⟨q, hq, rfl⟩ := List.mem_map.mp hq'
  exact ⟨q, hq, rfl⟩

lemma peers_eq : s.skel.peers a = (s.node a).peerIfaceInfo.map (·.peer) := by
  rw [Skeleton.peers]
  show ((s.node a).peerIfaceInfo.map PeerIfaceInfo.bare).map _ = _
  rw [List.map_map]
  rfl

section Topo

variable (T : s.skel.Topo lan) (ha : a ∈ s.iface)
include T ha

/-- A peer is another interface, and has this one among its peers. -/
lemma topo_peer {q : PeerIfaceInfo} (hq : q ∈ (s.node a).peerIfaceInfo) :
    q.peer ∈ s.iface ∧ q.peer ≠ a ∧ ∃ r ∈ (s.node q.peer).peerIfaceInfo, r.peer = a := by
  obtain ⟨hb, hne, hia, hib⟩ := (T.peers a ha q.peer).mp (mem_peers hq)
  exact ⟨hb, hne, exists_peer ((T.peers q.peer hb a).mpr ⟨ha, hne.symm, hib, hia⟩)⟩

lemma topo_nameForRt {q : PeerIfaceInfo} (hq : q ∈ (s.node a).peerIfaceInfo) :
    q.rtTblNameForRt = rtTblName (s.l2 lan q.peer) (s.l2 lan a) :=
  (T.names a ha q.bare (List.mem_map_of_mem hq)).1

end Topo

/-- Cells with a client in them are needed by an interface that it belongs to. -/
lemma Ok.fresh (H : s.Ok lan) (hc : c ∉ s.clients) :
    (∀ b ∈ s.iface, ∀ q ∈ (s.node b).peerIfaceInfo, ∀ ip, ¬ (s.skel.need lan).flt b q.peer c ip) ∧
      (∀ b ∈ s.iface, ∀ ip, ¬ (s.skel.need lan).fltIntra b c ip) ∧
      ∀ b ∈ s.iface, (∀ t, ¬ (s.skel.need lan).rt b c t) ∧ ¬ (s.skel.need lan).rtIntra b c := by
  refine ⟨fun b hb q hq ip h => ?_, fun b hb ip h => ?_, fun b hb => ⟨fun t h => ?_, fun h => ?_⟩⟩
  · exact hc (mem_clients (topo_peer H.topo hb hq).1 h.1)
  · exact hc (mem_clients hb h.2.1)
  · exact hc (mem_clients hb h.1)
  · exact hc (mem_clients hb h.1)

/-! ## A client joins -/

/-- **One pass of `handle_client_add`** over the peers: the client gets its routing rules for the L2 type
of the peer, and the peer gets its filter rules for the client. -/
lemma clientAddPass_filled (T : s.skel.Topo lan) (H : Filled lan F s) (ha : a ∈ s.iface)
    (hc : c ∈ (s.node a).clientInfo) {q : PeerIfaceInfo} (hq : q ∈ (s.node a).peerIfaceInfo)
    (flag : IpaHdrL2Type → Bool) (hflag : ∀ t, flag t = true ↔ F.rt a c t)
    (hflt : ∀ ip, ¬ F.flt q.peer a c ip) :
    (clientAddPass lan a c q (s, flag)).1.skel = s.skel ∧
      (∀ t, (clientAddPass lan a c q (s, flag)).2 t = true ↔ F.rt a c t ∨ t = s.l2 lan q.peer) ∧
      Filled lan ((F.setRt a c (fun t => F.rt a c t ∨ t = s.l2 lan q.peer) (F.rtIntra a c)).setFlt
          q.peer a fun c' ip => F.flt q.peer a c' ip ∨
            (c' = c ∧ (s.node q.peer).isIpAddrAssigned ip = true))
        (clientAddPass lan a c q (s, flag)).1 := by
  obtain ⟨hb, hne, r, hr, hra⟩ := topo_peer T ha hq
  set t := s.l2 lan q.peer with ht
  set F₁ := F.setRt a c (fun t' => F.rt a c t' ∨ t' = t) (F.rtIntra a c) with hF₁
  -- the routing rules
  obtain ⟨s₁, flag₁, hs₁, H₁, hskel, hflag₁⟩ : ∃ s₁ flag₁,
      (if flag t = false then (s.addClientRtRule lan a q c, Function.update flag t true)
        else (s, flag)) = (s₁, flag₁) ∧ Filled lan F₁ s₁ ∧ s₁.skel = s.skel ∧
      ∀ t', flag₁ t' = true ↔ F.rt a c t' ∨ t' = t := by
    cases hf : flag t with
    | false =>
        have hoff : ¬ F.rt a c t := by
          rw [← hflag t, hf]
          exact Bool.false_ne_true
        obtain ⟨H₁, hskel⟩ := H.ofRt ha hc fun G hG =>
          addClientRtRule_inter hG (H.rt a ha c hc) hne (topo_nameForRt T ha hq) hoff
        refine ⟨_, _, if_pos rfl, H₁, hskel, fun t' => ?_⟩
        rcases eq_or_ne t' t with rfl | ht'
        · simp
        · rw [Function.update_of_ne ht', hflag t']
          simp [ht']
    | true =>
        have hon : F.rt a c t := (hflag t).mp hf
        refine ⟨_, _, if_neg (by simp), H.congr ⟨fun _ _ _ _ _ _ => Iff.rfl,
          fun _ _ _ _ => Iff.rfl, fun b' _ d _ t' => ?_, fun b' _ d _ => ?_,
          fun _ _ _ => Iff.rfl, fun _ _ => Iff.rfl⟩, rfl, fun t' => ?_⟩
        · rw [Cells.setRt_iff]
          grind
        · rw [Cells.setRt_intra_iff]
          grind
        · rw [hflag t']
          exact ⟨Or.inl, fun h => h.elim id fun h => h ▸ hon⟩
  -- the filter rules
  obtain ⟨r₁, hr₁, hrbare⟩ : ∃ r₁ ∈ (s₁.node q.peer).peerIfaceInfo, r₁.peer = a := by
    have hmem : a ∈ s₁.skel.peers q.peer := hskel ▸ hra ▸ mem_peers hr
    exact exists_peer hmem
  have hb₁ : q.peer ∈ s₁.iface := skel_iface hskel ▸ hb
  have hrun : clientAddPass lan a c q (s, flag) = (s₁.addOneClientFltRule q.peer a c, flag₁) := by
    rw [clientAddPass]
    simp only [← ht, hs₁]
  obtain ⟨H₂, hskel₂⟩ := Filled.onPeer H₁ hb₁ hr₁ (D := fun c' ip => F₁.flt q.peer r₁.peer c' ip ∨
      (c' = c ∧ (s₁.node q.peer).isIpAddrAssigned ip = true))
    (f := addAssignedFltRule (s₁.node q.peer) c (s₁.client c).macAddr) fun G hG =>
      PeerIfaceInfo.addAssigned_turns rfl hG (H₁.flt _ hb₁ r₁ hr₁) (by rw [hrbare]; exact hflt)
  rw [hrbare] at H₂ hskel₂
  rw [skel_assigned hskel] at H₂
  rw [hrun]
  exact ⟨hskel₂.trans hskel, hflag₁, H₂⟩

/-- The cells when a client has been made known to some peers of its interface. -/
def withClient (lan : ℕ → LanProps) (s : LanToLan) (F : Cells) (a c : ℕ) (bs : List ℕ) : Cells :=
  { F with
    flt := fun b p c' ip => F.flt b p c' ip ∨
      (p = a ∧ c' = c ∧ b ∈ bs ∧ (s.node b).isIpAddrAssigned ip = true)
    rt := fun b d t => F.rt b d t ∨ (b = a ∧ d = c ∧ ∃ b' ∈ bs, s.l2 lan b' = t) }

/-- **The loop of `handle_client_add`** over the peers. -/
lemma clientAdd_loop (T : s.skel.Topo lan) (H : Filled lan F s) (ha : a ∈ s.iface)
    (hc : c ∈ (s.node a).clientInfo) (hrt : ∀ t, ¬ F.rt a c t)
    (hflt : ∀ b ip, ¬ F.flt b a c ip) :
    (((s.node a).peerIfaceInfo.foldl (fun st q => clientAddPass lan a c q st)
        (s, fun _ => false)).1.skel = s.skel) ∧
      Filled lan (withClient lan s F a c (s.skel.peers a))
        ((s.node a).peerIfaceInfo.foldl (fun st q => clientAddPass lan a c q st)
          (s, fun _ => false)).1 := by
  have hloop := foldl_invariant (l := (s.node a).peerIfaceInfo)
    (f := fun st q => clientAddPass lan a c q st) (s := (s, fun _ => false))
    (P := fun done (st : LanToLan × (IpaHdrL2Type → Bool)) => st.1.skel = s.skel ∧
      (∀ t, st.2 t = true ↔ ∃ b' ∈ done.map (·.peer), s.l2 lan b' = t) ∧
      Filled lan (withClient lan s F a c (done.map (·.peer))) st.1)
    ⟨rfl, by simp, H.congr ⟨fun _ _ _ _ _ _ => by simp [withClient], fun _ _ _ _ => Iff.rfl,
      fun _ _ _ _ _ => by simp [withClient], fun _ _ _ _ => Iff.rfl, fun _ _ _ => Iff.rfl,
      fun _ _ => Iff.rfl⟩⟩ (by
    rintro done q rest ⟨t, flag⟩ hl ⟨hskel, hflag, Ht⟩
    replace hskel : t.skel = s.skel := hskel
    have Tt : t.skel.Topo lan := hskel ▸ T
    have hat : a ∈ t.iface := skel_iface hskel ▸ ha
    have hq : q ∈ (s.node a).peerIfaceInfo := by rw [hl]; simp
    -- the element of the list as it is now
    obtain ⟨q', hq', hbare⟩ : ∃ q' ∈ (t.node a).peerIfaceInfo, q'.bare = q.bare := by
      have hmem : q.bare ∈ (t.node a).peerIfaceInfo.map PeerIfaceInfo.bare := by
        rw [skel_peers hskel]
        exact List.mem_map_of_mem hq
      exact List.mem_map.mp hmem
    have hpeer : q'.peer = q.peer := (congrArg PeerIfaceInfo.peer hbare :)
    have hpass : clientAddPass lan a c q (t, flag) = clientAddPass lan a c q' (t, flag) := by
      have hname : q'.rtTblNameForRt = q.rtTblNameForRt :=
        (congrArg PeerIfaceInfo.rtTblNameForRt hbare :)
      simp only [clientAddPass, addClientRtRule, hpeer, hname]
    have hnot : q.peer ∉ done.map (·.peer) := by
      have hnd := H.peers a ha
      rw [hl, List.map_append, List.map_cons, List.nodup_middle, List.nodup_cons] at hnd
      exact fun h => hnd.1 (List.mem_append_left _ h)
    obtain ⟨hskel', hflag', H'⟩ := clientAddPass_filled Tt Ht hat
      (by rw [skel_clientInfo hskel]; exact hc) hq' flag
      (fun t' => by rw [hflag t']; simp [withClient, hrt]) (by
        intro ip h
        rcases h with h | ⟨-, -, h, -⟩
        · exact hflt _ ip h
        · exact hnot (hpeer ▸ h))
    rw [← hpass] at hskel' hflag' H'
    rw [hpeer, skel_l2 hskel] at hflag'
    rw [hpeer, skel_l2 hskel] at H'
    have htypes : ∀ t', (∃ b' ∈ (done ++ [q]).map (·.peer), s.l2 lan b' = t') ↔
        (∃ b' ∈ done.map (·.peer), s.l2 lan b' = t') ∨ t' = s.l2 lan q.peer := by
      intro t'
      simp only [List.map_append, List.map_cons, List.map_nil, List.mem_append, or_and_right,
        exists_or]
      simp [eq_comm]
    refine ⟨hskel'.trans hskel, fun t' => ?_, H'.congr ?_⟩
    · rw [hflag' t', htypes]
      simp [withClient, hrt]
    · refine ⟨fun b _ p _ c' ip => ?_, fun _ _ _ _ => Iff.rfl, fun b _ d _ t' => ?_,
        fun b _ d _ => ?_, fun _ _ _ => Iff.rfl, fun _ _ => Iff.rfl⟩
      · rw [Cells.setFlt_iff]
        simp only [withClient, Cells.setRt_flt, List.map_append, List.map_cons, List.map_nil,
          List.mem_append, List.mem_singleton, skel_assigned hskel]
        rcases eq_or_ne b q.peer with rfl | hb
        · rcases eq_or_ne p a with rfl | hp
          · simp [hnot]
          · simp [hp]
        · simp [hb]
      · rw [Cells.setFlt_rt, Cells.setRt_iff]
        simp only [withClient, htypes]
        grind
      · rw [Cells.setFlt_rtIntra, Cells.setRt_intra_iff]
        simp only [withClient]
        grind)
  rw [peers_eq]
  exact ⟨hloop.1, hloop.2.2⟩

end LanToLan

namespace Skeleton

variable {lan : ℕ → LanProps} {k : Skeleton} {a b c : ℕ} {m : Mac}

/-- Nothing but the clients of the interfaces changes. -/
structure SameButClients (k k' : Skeleton) : Prop where
  iface : k'.iface = k.iface
  cached : k'.cached = k.cached
  node : ∀ b, k'.node b = { k.node b with clientInfo := (k'.node b).clientInfo }

namespace SameButClients

variable {k' : Skeleton} (h : k.SameButClients k')
include h

lemma l2 (b : ℕ) : k'.l2 lan b = k.l2 lan b := by
  rw [Skeleton.l2, Skeleton.l2, h.node]

lemma peers (b : ℕ) : k'.peers b = k.peers b := by
  rw [Skeleton.peers, Skeleton.peers, h.node]

lemma assigned (b : ℕ) : (k'.node b).isIpAddrAssigned = (k.node b).isIpAddrAssigned := by
  rw [h.node]

lemma intra (b : ℕ) :
    (k'.node b).supportIntraIfaceOffload = (k.node b).supportIntraIfaceOffload := by
  rw [h.node]

/-- **Clients come and go, and the skeleton stays consistent.** -/
lemma topo (T : k.Topo lan) (hm : ∀ b ∈ k.iface, ((k'.node b).clientInfo.map k'.mac).Nodup) :
    k'.Topo lan where
  pIface b hb d hd heq := by
    rw [h.iface] at hb hd
    rw [h.node b, h.node d] at heq
    exact T.pIface b hb d hd heq
  inter b hb := by
    rw [h.node]
    exact T.inter b (h.iface ▸ hb)
  intra b hb := by
    rw [h.node]
    exact T.intra b (h.iface ▸ hb)
  peers b hb d := by
    rw [h.peers, h.iface, h.node b, h.node d]
    exact T.peers b (h.iface ▸ hb) d
  names b hb q hq := by
    rw [h.node] at hq
    rw [h.l2, h.l2]
    exact T.names b (h.iface ▸ hb) q hq
  ref b hb t := by
    rw [h.node, h.peers]
    simp only [h.l2]
    exact T.ref b (h.iface ▸ hb) t
  intraInfo b hb hon := by
    rw [h.node] at hon
    rw [IntraOk, h.node]
    exact T.intraInfo b (h.iface ▸ hb) hon
  macs b hb := hm b (h.iface ▸ hb)

end SameButClients

/-- A client joins an interface. -/
def addClient (k : Skeleton) (a c : ℕ) (m : Mac) : Skeleton :=
  { k with
    alloc := fun n => k.alloc (n + 1)
    node := Function.update k.node a { k.node a with clientInfo := c :: (k.node a).clientInfo }
    mac := Function.update k.mac c m }

lemma addClient_self :
    (k.addClient a c m).node a = { k.node a with clientInfo := c :: (k.node a).clientInfo } :=
  Function.update_self ..

lemma addClient_ne (hb : b ≠ a) : (k.addClient a c m).node b = k.node b :=
  Function.update_of_ne hb ..

lemma addClient_same : k.SameButClients (k.addClient a c m) := by
  refine ⟨rfl, rfl, fun b => ?_⟩
  rcases eq_or_ne b a with rfl | hb
  · rw [addClient_self]
  · rw [addClient_ne hb]

lemma mem_addClient {d : ℕ} : d ∈ ((k.addClient a c m).node b).clientInfo ↔
    d ∈ (k.node b).clientInfo ∨ (b = a ∧ d = c) := by
  rcases eq_or_ne b a with rfl | hb
  · rw [addClient_self, List.mem_cons]
    tauto
  · rw [addClient_ne hb]
    simp [hb]

/-- **A new client keeps the skeleton consistent.** -/
lemma Topo.addClient (T : k.Topo lan) (hnew : m ∉ (k.node a).clientInfo.map k.mac)
    (hc : ∀ b ∈ k.iface, c ∉ (k.node b).clientInfo) : (k.addClient a c m).Topo lan := by
  refine addClient_same.topo T fun b hb => ?_
  have hmap : (k.node b).clientInfo.map (k.addClient a c m).mac =
      (k.node b).clientInfo.map k.mac := by
    refine List.map_congr_left fun d hd => ?_
    have hne : d ≠ c := fun h => hc b hb (h ▸ hd)
    exact Function.update_of_ne hne ..
  rcases eq_or_ne b a with rfl | hba
  · rw [addClient_self, List.map_cons, hmap]
    show (Function.update k.mac c m c :: _).Nodup
    rw [Function.update_self]
    exact List.nodup_cons.mpr ⟨hnew, T.macs b hb⟩
  · rw [addClient_ne hba, hmap]
    exact T.macs b hb

end Skeleton

namespace LanToLan

variable {lan : ℕ → LanProps} {s t : LanToLan} {a b c p : ℕ} {F : Cells}

/-- The part of `handle_client_add` within the interface. -/
lemma clientAdd_intra (T : s.skel.Topo lan) (H : Filled lan F s) (ha : a ∈ s.iface)
    (hc : c ∈ (s.node a).clientInfo) (hrt : ¬ F.rtIntra a c) (hflt : ∀ ip, ¬ F.fltIntra a c ip)
    (hon : (s.node a).supportIntraIfaceOffload = true) :
    ((s.addClientRtRule lan a (s.node a).intraInterfaceInfo c).onIntra a
        (addAssignedFltRule ((s.addClientRtRule lan a (s.node a).intraInterfaceInfo c).node a) c
          ((s.addClientRtRule lan a (s.node a).intraInterfaceInfo c).client c).macAddr)).skel =
        s.skel ∧
      Filled lan ((F.setRt a c (F.rt a c) True).setFltIntra a fun c' ip =>
          F.fltIntra a c' ip ∨ (c' = c ∧ (s.node a).isIpAddrAssigned ip = true))
        ((s.addClientRtRule lan a (s.node a).intraInterfaceInfo c).onIntra a
          (addAssignedFltRule ((s.addClientRtRule lan a (s.node a).intraInterfaceInfo c).node a) c
            ((s.addClientRtRule lan a (s.node a).intraInterfaceInfo c).client c).macAddr)) := by
  have hpeer : (s.node a).intraInterfaceInfo.peer = a := (T.intraInfo a ha hon).1
  have hname : (s.node a).intraInterfaceInfo.rtTblNameForRt = intraTblName :=
    (T.intraInfo a ha hon).2.1
  obtain ⟨H₁, hskel⟩ := H.ofRt ha hc fun G hG =>
    addClientRtRule_intra hG (H.rt a ha c hc) hpeer hname hrt
  set s₁ := s.addClientRtRule lan a (s.node a).intraInterfaceInfo c with hs₁
  have ha₁ : a ∈ s₁.iface := skel_iface hskel ▸ ha
  obtain ⟨H₂, hskel₂⟩ := H₁.onIntra ha₁ (D := fun c' ip => F.fltIntra a c' ip ∨
      (c' = c ∧ (s₁.node a).isIpAddrAssigned ip = true))
    (f := addAssignedFltRule (s₁.node a) c (s₁.client c).macAddr) fun G hG =>
      PeerIfaceInfo.addAssigned_turns rfl hG (H₁.fltIntra a ha₁) hflt
  rw [skel_assigned hskel] at H₂
  exact ⟨hskel₂.trans hskel, H₂⟩

/-- The cells that a new client asks for. -/
lemma ok_of_addClient {m : Mac} (T : s.skel.Topo lan) (T' : (s.skel.addClient a c m).Topo lan)
    (ht : t.skel = s.skel.addClient a c m) (Ht : Filled lan F t)
    (hflt : ∀ b p c' ip, F.flt b p c' ip ↔ (s.skel.need lan).flt b p c' ip ∨
      (p = a ∧ c' = c ∧ b ∈ s.skel.peers a ∧ (s.node b).isIpAddrAssigned ip = true))
    (hfltIntra : ∀ b c' ip, F.fltIntra b c' ip ↔ (s.skel.need lan).fltIntra b c' ip ∨
      (b = a ∧ c' = c ∧ (s.node a).supportIntraIfaceOffload = true ∧
        (s.node a).isIpAddrAssigned ip = true))
    (hrt : ∀ b d t, F.rt b d t ↔ (s.skel.need lan).rt b d t ∨
      (b = a ∧ d = c ∧ ∃ b' ∈ s.skel.peers a, s.skel.l2 lan b' = t))
    (hrtIntra : ∀ b d, F.rtIntra b d ↔ (s.skel.need lan).rtIntra b d ∨
      (b = a ∧ d = c ∧ (s.node a).supportIntraIfaceOffload = true))
    (hctx : F.ctx = (s.skel.need lan).ctx) (hctxIntra : F.ctxIntra = (s.skel.need lan).ctxIntra) :
    t.Ok lan := by
  refine ⟨ht ▸ T', Ht.congr ?_⟩
  rw [ht]
  have hsame : s.skel.SameButClients (s.skel.addClient a c m) := Skeleton.addClient_same
  have hal : ∀ b, ((s.skel.addClient a c m).node b).isIpAddrAssigned =
      (s.node b).isIpAddrAssigned := hsame.assigned
  have hsl : ∀ b, ((s.skel.addClient a c m).node b).supportIntraIfaceOffload =
      (s.node b).supportIntraIfaceOffload := hsame.intra
  have hiface : t.iface = s.iface := (congrArg Skeleton.iface ht :)
  refine ⟨fun b hb p hp c' ip => ?_, fun b _ c' ip => ?_, fun b _ d _ t' => ?_,
    fun b _ d _ => ?_, fun b _ t' => ?_, fun b _ => ?_⟩
  · rw [hflt]
    simp only [Skeleton.need, Skeleton.mem_addClient, hal]
    have hsymm : p = a → b ∈ s.skel.peers a := by
      rintro rfl
      have hb' : b ∈ s.iface := hiface ▸ hb
      have hp' : p ∈ s.skel.peers b := by
        rw [← hsame.peers, ← ht, peers_eq]
        exact hp
      obtain ⟨hp₁, hne, hi, hi'⟩ := (T.peers b hb' p).mp hp'
      exact (T.peers p hp₁ b).mpr ⟨hb', hne.symm, hi', hi⟩
    constructor
    · rintro (⟨h, h'⟩ | ⟨rfl, rfl, -, h'⟩)
      · exact ⟨Or.inl h, h'⟩
      · exact ⟨Or.inr ⟨rfl, rfl⟩, h'⟩
    · rintro ⟨h | ⟨rfl, rfl⟩, h'⟩
      · exact Or.inl ⟨h, h'⟩
      · exact Or.inr ⟨rfl, rfl, hsymm rfl, h'⟩
  · rw [hfltIntra]
    simp only [Skeleton.need, Skeleton.mem_addClient, hal, hsl]
    constructor
    · rintro (⟨h, h', h''⟩ | ⟨rfl, rfl, h, h''⟩)
      · exact ⟨h, Or.inl h', h''⟩
      · exact ⟨h, Or.inr ⟨rfl, rfl⟩, h''⟩
    · rintro ⟨h, h' | ⟨rfl, rfl⟩, h''⟩
      · exact Or.inl ⟨h, h', h''⟩
      · exact Or.inr ⟨rfl, rfl, h, h''⟩
  · rw [hrt]
    simp only [Skeleton.need, Skeleton.mem_addClient, hsame.peers, hsame.l2]
    constructor
    · rintro (⟨h, h'⟩ | ⟨rfl, rfl, h'⟩)
      · exact ⟨Or.inl h, h'⟩
      · exact ⟨Or.inr ⟨rfl, rfl⟩, h'⟩
    · rintro ⟨h | ⟨rfl, rfl⟩, h'⟩
      · exact Or.inl ⟨h, h'⟩
      · exact Or.inr ⟨rfl, rfl, h'⟩
  · rw [hrtIntra]
    simp only [Skeleton.need, Skeleton.mem_addClient, hsl]
    constructor
    · rintro (⟨h, h'⟩ | ⟨rfl, rfl, h'⟩)
      · exact ⟨Or.inl h, h'⟩
      · exact ⟨Or.inr ⟨rfl, rfl⟩, h'⟩
    · rintro ⟨h | ⟨rfl, rfl⟩, h'⟩
      · exact Or.inl ⟨h, h'⟩
      · exact Or.inr ⟨rfl, rfl, h'⟩
  · rw [hctx]
    simp only [Skeleton.need, hsame.peers, hsame.l2]
  · rw [hctxIntra]
    simp only [Skeleton.need, hsl]
    rfl

/-- **A client joins an interface** that does not have it and has room for it. -/
lemma Ok.addClient (H : s.Ok lan) (ha : a ∈ s.iface) {m : Mac}
    (hnew : m ∉ (s.node a).clientInfo.map s.mac)
    (hroom : (s.node a).clientInfo.length ≠ maxNumClient) :
    (s.ifaceHandleClientAdd lan a m).Ok lan ∧
      (s.ifaceHandleClientAdd lan a m).skel =
        s.skel.addClient a (newAddr s.clients (s.alloc 0)) m := by
  set c := newAddr s.clients (s.alloc 0) with hcdef
  have hc : c ∉ s.clients := newAddr_not_mem _ _
  obtain ⟨hflt, hfltIntra, hrt⟩ := H.fresh hc
  set s₁ : LanToLan := { s with
    client := Function.update s.client c ⟨m, fun _ _ => [], fun _ => []⟩
    alloc := fun n => s.alloc (n + 1)
    node := Function.update s.node a
      { s.node a with clientInfo := c :: (s.node a).clientInfo } } with hs₁
  have hskel₁ : s₁.skel = s.skel.addClient a c m := by
    ext1
    · rfl
    · rfl
    · rfl
    · funext b
      show LanToLanIface.bare (Function.update s.node a _ b) =
        Function.update s.skel.node a _ b
      rcases eq_or_ne b a with rfl | hb
      · rw [Function.update_self, Function.update_self]
        rfl
      · rw [Function.update_of_ne hb, Function.update_of_ne hb]
        rfl
    · funext d
      show (Function.update s.client c _ d).macAddr = Function.update s.mac c m d
      rcases eq_or_ne d c with rfl | hd
      · rw [Function.update_self, Function.update_self]
      · rw [Function.update_of_ne hd, Function.update_of_ne hd]
        rfl
  have H₁ : Filled lan (s.skel.need lan) s₁ :=
    H.filled.pushClient ha hc m rfl hflt hfltIntra (hrt a ha).1 (hrt a ha).2
  have T₁ : s₁.skel.Topo lan := hskel₁ ▸ H.topo.addClient hnew fun b hb h => hc (mem_clients hb h)
  have hself : s₁.node a = { s.node a with clientInfo := c :: (s.node a).clientInfo } :=
    Function.update_self ..
  have hc₁ : c ∈ (s₁.node a).clientInfo := by
    rw [hself]
    exact List.mem_cons_self
  -- the rules between interfaces
  obtain ⟨s₂, hs₂, hskel₂, H₂⟩ : ∃ s₂, (if (s₁.node a).supportInterIfaceOffload then
        ((s₁.node a).peerIfaceInfo.foldl (fun st peer => clientAddPass lan a c peer st)
          (s₁, fun _ => false)).1
      else s₁) = s₂ ∧ s₂.skel = s₁.skel ∧
      Filled lan (withClient lan s₁ (s.skel.need lan) a c (s₁.skel.peers a)) s₂ := by
    split_ifs with hinter
    · obtain ⟨hskel, Hl⟩ := clientAdd_loop T₁ H₁ ha hc₁ (hrt a ha).1 fun b ip h =>
        hc (mem_clients ha h.1)
      exact ⟨_, rfl, hskel, Hl⟩
    · have hnone : s₁.skel.peers a = [] := by
        refine List.eq_nil_iff_forall_not_mem.mpr fun b hb => ?_
        exact hinter ((T₁.peers a ha b).mp hb).2.2.1
      refine ⟨_, rfl, rfl, H₁.congr ?_⟩
      rw [hnone]
      exact ⟨fun _ _ _ _ _ _ => by simp [withClient], fun _ _ _ _ => Iff.rfl,
        fun _ _ _ _ _ => by simp [withClient], fun _ _ _ _ => Iff.rfl, fun _ _ _ => Iff.rfl,
        fun _ _ => Iff.rfl⟩
  have T₂ : s₂.skel.Topo lan := hskel₂ ▸ T₁
  have ha₂ : a ∈ s₂.iface := skel_iface hskel₂ ▸ ha
  have hc₂ : c ∈ (s₂.node a).clientInfo := skel_clientInfo hskel₂ a ▸ hc₁
  have hdup : ¬ (((s.node a).clientInfo.any fun c => (s.client c).macAddr = m) = true) := by
    intro h
    obtain ⟨d, hd, hdm⟩ := List.any_eq_true.mp h
    exact hnew (List.mem_map.mpr ⟨d, hd, of_decide_eq_true hdm⟩)
  have hrun : s.ifaceHandleClientAdd lan a m =
      if (s₂.node a).supportIntraIfaceOffload then
        (s₂.addClientRtRule lan a (s₂.node a).intraInterfaceInfo c).onIntra a
          (addAssignedFltRule ((s₂.addClientRtRule lan a (s₂.node a).intraInterfaceInfo c).node a) c
            ((s₂.addClientRtRule lan a (s₂.node a).intraInterfaceInfo c).client c).macAddr)
      else s₂ := by
    rw [ifaceHandleClientAdd, if_neg hdup, if_neg hroom, ← hs₂]
    rfl
  have hk : ∀ {t : LanToLan}, t.skel = s₁.skel → t.skel = s.skel.addClient a c m :=
    fun h => h.trans hskel₁
  have hassigned : ∀ b, (s₁.node b).isIpAddrAssigned = (s.node b).isIpAddrAssigned := fun b =>
    (congrArg (fun k : Skeleton => (k.node b).isIpAddrAssigned) hskel₁).trans
      (Skeleton.addClient_same.assigned b)
  have hsupport : (s₁.node a).supportIntraIfaceOffload = (s.node a).supportIntraIfaceOffload := by
    rw [hself]
  have hflt₂ : ∀ b p c' ip,
      (withClient lan s₁ (s.skel.need lan) a c (s₁.skel.peers a)).flt b p c' ip ↔
        (s.skel.need lan).flt b p c' ip ∨ (p = a ∧ c' = c ∧ b ∈ s.skel.peers a ∧
          (s.node b).isIpAddrAssigned ip = true) := by
    intro b p c' ip
    rw [withClient, hskel₁, Skeleton.addClient_same.peers]
    simp only [hassigned]
  have hrt₂ : ∀ b d t, (withClient lan s₁ (s.skel.need lan) a c (s₁.skel.peers a)).rt b d t ↔
      (s.skel.need lan).rt b d t ∨
        (b = a ∧ d = c ∧ ∃ b' ∈ s.skel.peers a, s.skel.l2 lan b' = t) := by
    intro b d t
    have hl2 : ∀ b', s₁.l2 lan b' = s.skel.l2 lan b' := fun b' => by
      show s₁.skel.l2 lan b' = _
      rw [hskel₁, Skeleton.addClient_same.l2]
    rw [withClient, hskel₁, Skeleton.addClient_same.peers]
    simp only [hl2]
  rw [hrun]
  split_ifs with hintra
  · have hon : (s.node a).supportIntraIfaceOffload = true := by
      rw [← hsupport, ← skel_intra hskel₂]
      exact hintra
    obtain ⟨hskel₃, H₃⟩ := clientAdd_intra T₂ H₂ ha₂ hc₂ (hrt a ha).2 (hfltIntra a ha) hintra
    refine ⟨ok_of_addClient H.topo (hskel₁ ▸ T₁) (hk (hskel₃.trans hskel₂)) H₃ hflt₂
      (fun b c' ip => ?_) (fun b d t' => ?_) (fun b d => ?_) rfl rfl, hk (hskel₃.trans hskel₂)⟩
    · rw [Cells.setFltIntra_iff, skel_assigned hskel₂, hassigned]
      simp only [Cells.setRt_fltIntra, withClient]
      grind
    · rw [← hrt₂, Cells.setFltIntra_rt, Cells.setRt_iff]
      grind
    · rw [Cells.setFltIntra_rtIntra, Cells.setRt_intra_iff]
      simp only [withClient]
      grind
  · have hoff : ¬ (s.node a).supportIntraIfaceOffload = true := by
      rw [← hsupport, ← skel_intra hskel₂]
      exact hintra
    refine ⟨ok_of_addClient H.topo (hskel₁ ▸ T₁) (hk hskel₂) H₂ hflt₂ (fun b c' ip => ?_) hrt₂
      (fun b d => ?_) rfl rfl, hk hskel₂⟩
    · simp [withClient, hoff]
    · simp [withClient, hoff]

/-! ## A client leaves -/

/-- **One pass of `handle_client_del`** over the peers. -/
lemma clientDelPass_filled (T : s.skel.Topo lan) (H : Filled lan F s) (ha : a ∈ s.iface)
    (hc : c ∈ (s.node a).clientInfo) {q : PeerIfaceInfo} (hq : q.peer ∈ s.skel.peers a)
    (flag : IpaHdrL2Type → Bool) (hflag : ∀ t, flag t = true → ¬ F.rt a c t)
    (hflt : (∃ ip, F.flt q.peer a c ip) →
      ∀ ip, F.flt q.peer a c ip ↔ (s.node q.peer).isIpAddrAssigned ip = true) :
    (clientDelPass lan a c q (s, flag)).1.skel = s.skel ∧
      (∀ t, (clientDelPass lan a c q (s, flag)).2 t = true ↔
        flag t = true ∨ t = s.l2 lan q.peer) ∧
      Filled lan ((F.setFlt q.peer a fun c' ip => F.flt q.peer a c' ip ∧ c' ≠ c).setRt a c
          (fun t => F.rt a c t ∧ t ≠ s.l2 lan q.peer) (F.rtIntra a c))
        (clientDelPass lan a c q (s, flag)).1 := by
  obtain ⟨hb, hne, hia, hib⟩ := (T.peers a ha q.peer).mp hq
  obtain ⟨r, hr, hra⟩ := exists_peer ((T.peers q.peer hb a).mpr ⟨ha, hne.symm, hib, hia⟩)
  obtain ⟨H₁, hskel⟩ := H.onPeer hb hr
    (D := fun c' ip => F.flt q.peer r.peer c' ip ∧ c' ≠ c)
    (f := delClientFltRule (s.node q.peer).isIpAddrAssigned c) fun G hG =>
      PeerIfaceInfo.del_turns hG (H.flt _ hb r hr) (by rw [hra]; exact hflt)
  rw [hra] at H₁ hskel
  set s₁ := s.onPeer q.peer a (delClientFltRule (s.node q.peer).isIpAddrAssigned c) with hs₁
  set F₁ := F.setFlt q.peer a fun c' ip => F.flt q.peer a c' ip ∧ c' ≠ c with hF₁
  have hl2 : s₁.l2 lan q.peer = s.l2 lan q.peer := skel_l2 hskel lan q.peer
  have hrun : clientDelPass lan a c q (s, flag) =
      if flag (s.l2 lan q.peer) = false then
        (s₁.delClientRtRule lan a q c, Function.update flag (s.l2 lan q.peer) true)
      else (s₁, flag) := by
    rw [clientDelPass, ← hl2]
    rfl
  rw [hrun]
  split_ifs with hf
  · have ha₁ : a ∈ s₁.iface := skel_iface hskel ▸ ha
    have hc₁ : c ∈ (s₁.node a).clientInfo := by
      rw [skel_clientInfo hskel]
      exact hc
    obtain ⟨H₂, hskel₂⟩ := H₁.ofRt ha₁ hc₁ fun G hG =>
      delClientRtRule_inter hG (H₁.rt a ha₁ c hc₁) hne
    rw [hl2] at H₂
    refine ⟨hskel₂.trans hskel, fun t => ?_, H₂⟩
    rcases eq_or_ne t (s.l2 lan q.peer) with rfl | ht
    · simp
    · simp [ht]
  · have hon : flag (s.l2 lan q.peer) = true := by simpa using hf
    refine ⟨hskel, fun t => ⟨Or.inl, fun h => h.elim id fun h => h ▸ hon⟩, H₁.congr ?_⟩
    refine ⟨fun _ _ _ _ _ _ => Iff.rfl, fun _ _ _ _ => Iff.rfl, fun b _ d _ t => ?_,
      fun b _ d _ => ?_, fun _ _ _ => Iff.rfl, fun _ _ => Iff.rfl⟩
    · rw [Cells.setRt_iff, hF₁, Cells.setFlt_rt]
      have hoff := hflag _ hon
      grind
    · rw [Cells.setRt_intra_iff, hF₁, Cells.setFlt_rtIntra]
      grind

/-- The cells when some peers of an interface have forgotten a client of it. -/
def withoutClient (lan : ℕ → LanProps) (s : LanToLan) (F : Cells) (a c : ℕ) (bs : List ℕ) : Cells :=
  { F with
    flt := fun b p c' ip => F.flt b p c' ip ∧ ¬ (p = a ∧ c' = c ∧ b ∈ bs)
    rt := fun b d t => F.rt b d t ∧ ¬ (b = a ∧ d = c ∧ ∃ b' ∈ bs, s.l2 lan b' = t) }

/-- **The loop of `handle_client_del`** over the peers. -/
lemma clientDel_loop (T : s.skel.Topo lan) (H : Filled lan F s) (ha : a ∈ s.iface)
    (hc : c ∈ (s.node a).clientInfo)
    (hflt : ∀ b ip, F.flt b a c ip ↔ (s.node b).isIpAddrAssigned ip = true) :
    (((s.node a).peerIfaceInfo.foldl (fun st q => clientDelPass lan a c q st)
        (s, fun _ => false)).1.skel = s.skel) ∧
      Filled lan (withoutClient lan s F a c (s.skel.peers a))
        ((s.node a).peerIfaceInfo.foldl (fun st q => clientDelPass lan a c q st)
          (s, fun _ => false)).1 := by
  have hloop := foldl_invariant (l := (s.node a).peerIfaceInfo)
    (f := fun st q => clientDelPass lan a c q st) (s := (s, fun _ => false))
    (P := fun done (st : LanToLan × (IpaHdrL2Type → Bool)) => st.1.skel = s.skel ∧
      (∀ t, st.2 t = true ↔ ∃ b' ∈ done.map (·.peer), s.l2 lan b' = t) ∧
      Filled lan (withoutClient lan s F a c (done.map (·.peer))) st.1)
    ⟨rfl, by simp, H.congr ⟨fun _ _ _ _ _ _ => by simp [withoutClient], fun _ _ _ _ => Iff.rfl,
      fun _ _ _ _ _ => by simp [withoutClient], fun _ _ _ _ => Iff.rfl, fun _ _ _ => Iff.rfl,
      fun _ _ => Iff.rfl⟩⟩ (by
    rintro done q rest ⟨t, flag⟩ hl ⟨hskel, hflag, Ht⟩
    replace hskel : t.skel = s.skel := hskel
    have Tt : t.skel.Topo lan := hskel ▸ T
    have hat : a ∈ t.iface := skel_iface hskel ▸ ha
    have hq : q ∈ (s.node a).peerIfaceInfo := by rw [hl]; simp
    have hnot : q.peer ∉ done.map (·.peer) := by
      have hnd := H.peers a ha
      rw [hl, List.map_append, List.map_cons, List.nodup_middle, List.nodup_cons] at hnd
      exact fun h => hnd.1 (List.mem_append_left _ h)
    obtain ⟨hskel', hflag', H'⟩ := clientDelPass_filled Tt Ht hat (q := q)
      (by rw [skel_clientInfo hskel]; exact hc) (hskel ▸ mem_peers hq) flag
      (fun t' ht' h => h.2 ⟨rfl, rfl, (hflag t').mp ht'⟩) (by
        rintro - ip
        rw [skel_assigned hskel, ← hflt]
        exact ⟨And.left, fun h => ⟨h, fun h' => hnot h'.2.2⟩⟩)
    rw [skel_l2 hskel] at hflag' H'
    have htypes : ∀ t', (∃ b' ∈ (done ++ [q]).map (·.peer), s.l2 lan b' = t') ↔
        (∃ b' ∈ done.map (·.peer), s.l2 lan b' = t') ∨ t' = s.l2 lan q.peer := by
      intro t'
      simp only [List.map_append, List.map_cons, List.map_nil, List.mem_append, or_and_right,
        exists_or]
      simp [eq_comm]
    refine ⟨hskel'.trans hskel, fun t' => ?_, H'.congr ?_⟩
    · rw [hflag' t', htypes, ← hflag t']
    · refine ⟨fun b _ p _ c' ip => ?_, fun _ _ _ _ => Iff.rfl, fun b _ d _ t' => ?_,
        fun b _ d _ => ?_, fun _ _ _ => Iff.rfl, fun _ _ => Iff.rfl⟩
      · rw [Cells.setRt_flt, Cells.setFlt_iff]
        simp only [withoutClient, List.map_append, List.map_cons, List.map_nil, List.mem_append,
          List.mem_singleton]
        rcases eq_or_ne b q.peer with rfl | hb
        · rcases eq_or_ne p a with rfl | hp
          · simp [hnot]
          · simp [hp]
        · simp [hb]
      · rw [Cells.setRt_iff, Cells.setFlt_rt]
        simp only [withoutClient, htypes]
        grind
      · rw [Cells.setRt_intra_iff]
        simp only [withoutClient, Cells.setFlt_rtIntra]
        grind)
  rw [peers_eq]
  exact ⟨hloop.1, hloop.2.2⟩

/-- The part of `handle_client_del` within the interface. -/
lemma clientDel_intra (T : s.skel.Topo lan) (H : Filled lan F s) (ha : a ∈ s.iface)
    (hc : c ∈ (s.node a).clientInfo)
    (hflt : ∀ ip, F.fltIntra a c ip ↔ (s.node a).isIpAddrAssigned ip = true)
    (hon : (s.node a).supportIntraIfaceOffload = true) :
    ∃ t, (s.onIntra a (delClientFltRule (s.node a).isIpAddrAssigned c)).delClientRtRule lan a
        ((s.onIntra a (delClientFltRule (s.node a).isIpAddrAssigned c)).node a).intraInterfaceInfo c =
          t ∧ t.skel = s.skel ∧
      Filled lan ((F.setFltIntra a fun c' ip => F.fltIntra a c' ip ∧ c' ≠ c).setRt a c (F.rt a c)
        False) t := by
  obtain ⟨H₁, hskel⟩ := H.onIntra ha (D := fun c' ip => F.fltIntra a c' ip ∧ c' ≠ c)
    (f := delClientFltRule (s.node a).isIpAddrAssigned c) fun G hG =>
      PeerIfaceInfo.del_turns hG (H.fltIntra a ha) fun _ => hflt
  set s₁ := s.onIntra a (delClientFltRule (s.node a).isIpAddrAssigned c) with hs₁
  have ha₁ : a ∈ s₁.iface := skel_iface hskel ▸ ha
  have hc₁ : c ∈ (s₁.node a).clientInfo := by
    rw [skel_clientInfo hskel]
    exact hc
  have hpeer : (s₁.node a).intraInterfaceInfo.peer = a := by
    have T₁ : s₁.skel.Topo lan := hskel ▸ T
    refine (T₁.intraInfo a ha₁ ?_).1
    rw [hskel]
    exact hon
  obtain ⟨H₂, hskel₂⟩ := H₁.ofRt ha₁ hc₁ fun G hG =>
    delClientRtRule_intra hG (H₁.rt a ha₁ c hc₁) hpeer
  exact ⟨_, rfl, hskel₂.trans hskel, H₂⟩

end LanToLan

namespace Skeleton

variable {lan : ℕ → LanProps} {k : Skeleton} {a b c d : ℕ}

/-- A client leaves an interface. -/
def dropClient (k : Skeleton) (a c : ℕ) : Skeleton :=
  { k with
    node := Function.update k.node a { k.node a with clientInfo := (k.node a).clientInfo.erase c } }

lemma dropClient_self : (k.dropClient a c).node a =
    { k.node a with clientInfo := (k.node a).clientInfo.erase c } := Function.update_self ..

lemma dropClient_ne (hb : b ≠ a) : (k.dropClient a c).node b = k.node b :=
  Function.update_of_ne hb ..

lemma dropClient_same : k.SameButClients (k.dropClient a c) := by
  refine ⟨rfl, rfl, fun b => ?_⟩
  rcases eq_or_ne b a with rfl | hb
  · rw [dropClient_self]
  · rw [dropClient_ne hb]

lemma mem_dropClient (hn : (k.node a).clientInfo.Nodup) :
    d ∈ ((k.dropClient a c).node b).clientInfo ↔
      d ∈ (k.node b).clientInfo ∧ ¬ (b = a ∧ d = c) := by
  rcases eq_or_ne b a with rfl | hb
  · rw [dropClient_self, hn.mem_erase_iff]
    tauto
  · rw [dropClient_ne hb]
    simp [hb]

/-- **A client less keeps the skeleton consistent.** -/
lemma Topo.dropClient (T : k.Topo lan) : (k.dropClient a c).Topo lan := by
  refine dropClient_same.topo T fun b hb => ?_
  rcases eq_or_ne b a with rfl | hba
  · rw [dropClient_self]
    exact (T.macs b hb).sublist (List.erase_sublist.map _)
  · rw [dropClient_ne hba]
    exact T.macs b hb

end Skeleton

namespace LanToLan

variable {lan : ℕ → LanProps} {s t : LanToLan} {a b c p : ℕ} {F : Cells}

/-- The cells that nobody asks for any more. -/
lemma ok_of_dropClient (H : s.Ok lan) (ha : a ∈ s.iface) (ht : t.skel = s.skel.dropClient a c)
    (Ht : Filled lan F t)
    (hflt : ∀ b p c' ip, F.flt b p c' ip ↔
      (s.skel.need lan).flt b p c' ip ∧ ¬ (p = a ∧ c' = c ∧ b ∈ s.skel.peers a))
    (hfltIntra : ∀ b c' ip, F.fltIntra b c' ip ↔
      (s.skel.need lan).fltIntra b c' ip ∧ ¬ (b = a ∧ c' = c))
    (hrt : ∀ b d t, ¬ (b = a ∧ d = c) → (F.rt b d t ↔ (s.skel.need lan).rt b d t))
    (hrtIntra : ∀ b d, ¬ (b = a ∧ d = c) → (F.rtIntra b d ↔ (s.skel.need lan).rtIntra b d))
    (hctx : F.ctx = (s.skel.need lan).ctx) (hctxIntra : F.ctxIntra = (s.skel.need lan).ctxIntra) :
    t.Ok lan := by
  refine ⟨ht ▸ H.topo.dropClient, Ht.congr ?_⟩
  have hnd : (s.skel.node a).clientInfo.Nodup := nodup_clientInfo H.filled.clients ha
  have hsame : s.skel.SameButClients (s.skel.dropClient a c) := Skeleton.dropClient_same
  have hmem : ∀ b d, d ∈ ((s.skel.dropClient a c).node b).clientInfo ↔
      d ∈ (s.skel.node b).clientInfo ∧ ¬ (b = a ∧ d = c) := fun _ _ => Skeleton.mem_dropClient hnd
  have hgone : ∀ b d, d ∈ (t.node b).clientInfo → ¬ (b = a ∧ d = c) := by
    intro b d hd
    have hd' : d ∈ (t.skel.node b).clientInfo := hd
    rw [ht, hmem] at hd'
    exact hd'.2
  have hiface : t.iface = s.iface := (congrArg Skeleton.iface ht :)
  rw [ht]
  refine ⟨fun b hb p hp c' ip => ?_, fun b _ c' ip => ?_, fun b _ d hd t' => ?_,
    fun b _ d hd => ?_, fun b _ t' => ?_, fun b _ => ?_⟩
  · rw [hflt]
    simp only [Skeleton.need, hmem, hsame.assigned]
    have hsymm : p = a → b ∈ s.skel.peers a := by
      rintro rfl
      have hb' : b ∈ s.iface := hiface ▸ hb
      have hp' : p ∈ s.skel.peers b := by
        rw [← hsame.peers, ← ht, peers_eq]
        exact hp
      obtain ⟨hp₁, hne, hi, hi'⟩ := (H.topo.peers b hb' p).mp hp'
      exact (H.topo.peers p hp₁ b).mpr ⟨hb', hne.symm, hi', hi⟩
    tauto
  · rw [hfltIntra]
    simp only [Skeleton.need, hmem, hsame.assigned, hsame.intra]
    tauto
  · rw [hrt b d t' (hgone b d hd)]
    have hb := hgone b d hd
    simp only [Skeleton.need, hmem, hsame.peers, hsame.l2]
    tauto
  · rw [hrtIntra b d (hgone b d hd)]
    have hb := hgone b d hd
    simp only [Skeleton.need, hmem, hsame.intra]
    tauto
  · rw [hctx]
    simp only [Skeleton.need, hsame.peers, hsame.l2]
  · rw [hctxIntra]
    simp only [Skeleton.need, hsame.intra]

/-- **A client leaves an interface.** -/
lemma Ok.dropClient (H : s.Ok lan) (ha : a ∈ s.iface) {m : Mac}
    (hfind : ((s.node a).clientInfo.find? fun c => (s.client c).macAddr = m) = some c) :
    (s.ifaceHandleClientDel lan a m).Ok lan ∧
      (s.ifaceHandleClientDel lan a m).skel = s.skel.dropClient a c := by
  have hc : c ∈ (s.node a).clientInfo := List.mem_of_find?_eq_some hfind
  -- the rules between interfaces
  obtain ⟨s₂, hs₂, hskel₂, H₂⟩ : ∃ s₂, (if (s.node a).supportInterIfaceOffload then
        ((s.node a).peerIfaceInfo.foldl (fun st peer => clientDelPass lan a c peer st)
          (s, fun _ => false)).1
      else s) = s₂ ∧ s₂.skel = s.skel ∧
      Filled lan (withoutClient lan s (s.skel.need lan) a c (s.skel.peers a)) s₂ := by
    split_ifs with hinter
    · obtain ⟨hskel, Hl⟩ := clientDel_loop H.topo H.filled ha hc fun b ip =>
        ⟨And.right, fun h => ⟨hc, h⟩⟩
      exact ⟨_, rfl, hskel, Hl⟩
    · have hnone : s.skel.peers a = [] := by
        refine List.eq_nil_iff_forall_not_mem.mpr fun b hb => ?_
        exact hinter ((H.topo.peers a ha b).mp hb).2.2.1
      refine ⟨_, rfl, rfl, H.filled.congr ?_⟩
      rw [hnone]
      exact ⟨fun _ _ _ _ _ _ => by simp [withoutClient], fun _ _ _ _ => Iff.rfl,
        fun _ _ _ _ _ => by simp [withoutClient], fun _ _ _ _ => Iff.rfl, fun _ _ _ => Iff.rfl,
        fun _ _ => Iff.rfl⟩
  have T₂ : s₂.skel.Topo lan := hskel₂ ▸ H.topo
  have ha₂ : a ∈ s₂.iface := skel_iface hskel₂ ▸ ha
  have hc₂ : c ∈ (s₂.node a).clientInfo := skel_clientInfo hskel₂ a ▸ hc
  -- the rules within the interface
  obtain ⟨s₃, F₃, hs₃, hskel₃, H₃, hF₃⟩ : ∃ s₃ F₃, (if (s₂.node a).supportIntraIfaceOffload then
        let s := s₂.onIntra a (delClientFltRule (s₂.node a).isIpAddrAssigned c)
        s.delClientRtRule lan a (s.node a).intraInterfaceInfo c
      else s₂) = s₃ ∧ s₃.skel = s₂.skel ∧ Filled lan F₃ s₃ ∧
      F₃.flt = (withoutClient lan s (s.skel.need lan) a c (s.skel.peers a)).flt ∧
      (∀ b c' ip, F₃.fltIntra b c' ip ↔
        (s.skel.need lan).fltIntra b c' ip ∧ ¬ (b = a ∧ c' = c)) ∧
      (∀ b d t, F₃.rt b d t ↔
        (withoutClient lan s (s.skel.need lan) a c (s.skel.peers a)).rt b d t) ∧
      (∀ b d, F₃.rtIntra b d ↔ (s.skel.need lan).rtIntra b d ∧ ¬ (b = a ∧ d = c)) ∧
      F₃.ctx = (s.skel.need lan).ctx ∧ F₃.ctxIntra = (s.skel.need lan).ctxIntra := by
    split_ifs with hintra
    · have hon : (s.node a).supportIntraIfaceOffload = true := by
        rw [← skel_intra hskel₂]
        exact hintra
      obtain ⟨t, hrun, hskel, Ht⟩ := clientDel_intra T₂ H₂ ha₂ hc₂ (fun ip => by
        rw [skel_assigned hskel₂]
        exact ⟨fun h => h.2.2, fun h => ⟨hon, hc, h⟩⟩) hintra
      refine ⟨t, _, hrun, hskel, Ht, rfl, fun b c' ip => ?_, fun b d t => ?_, fun b d => ?_,
        rfl, rfl⟩
      · rw [Cells.setRt_fltIntra, Cells.setFltIntra_iff]
        simp only [withoutClient]
        grind
      · rw [Cells.setRt_iff]
        simp only [Cells.setFltIntra_rt]
        grind
      · rw [Cells.setRt_intra_iff]
        simp only [Cells.setFltIntra_rtIntra, withoutClient]
        grind
    · have hoff : ¬ (s.node a).supportIntraIfaceOffload = true := by
        rw [← skel_intra hskel₂]
        exact hintra
      refine ⟨s₂, _, rfl, rfl, H₂, rfl, fun b c' ip => ⟨fun h => ⟨h, ?_⟩, And.left⟩,
        fun _ _ _ => Iff.rfl, fun b d => ⟨fun h => ⟨h, ?_⟩, And.left⟩, rfl, rfl⟩
      · rintro ⟨rfl, -⟩
        exact hoff h.1
      · rintro ⟨rfl, -⟩
        exact hoff h.2
  obtain ⟨hflt, hfltIntra, hrt, hrtIntra, hctx, hctxIntra⟩ := hF₃
  have ha₃ : a ∈ s₃.iface := skel_iface hskel₃ ▸ ha₂
  have hk₃ : s₃.skel = s.skel := hskel₃.trans hskel₂
  have hrun : s.ifaceHandleClientDel lan a m =
      s₃.modNode a fun n => { n with clientInfo := (s₃.node a).clientInfo.erase c } := by
    rw [ifaceHandleClientDel, hfind]
    simp only [hs₂, hs₃]
    rfl
  have hskel : (s.ifaceHandleClientDel lan a m).skel = s.skel.dropClient a c := by
    rw [hrun, ← hk₃]
    ext1
    · rfl
    · rfl
    · rfl
    · funext b
      show LanToLanIface.bare (Function.update s₃.node a _ b) = Function.update s₃.skel.node a _ b
      rcases eq_or_ne b a with rfl | hb
      · rw [Function.update_self, Function.update_self]
        rfl
      · rw [Function.update_of_ne hb, Function.update_of_ne hb]
        rfl
    · rfl
  refine ⟨?_, hskel⟩
  have H₄ := H₃.dropClients ha₃ (l := (s₃.node a).clientInfo.erase c) List.erase_sublist
    fun d hd hdl => by
      have hdc : d = c := by
        by_contra hne
        exact hdl ((List.mem_erase_of_ne hne).mpr hd)
      subst hdc
      refine ⟨fun t h => ?_, fun h => ?_⟩
      · obtain ⟨hneed, hnot⟩ := (hrt a d t).mp h
        exact hnot ⟨rfl, rfl, hneed.2⟩
      · exact ((hrtIntra a d).mp h).2 ⟨rfl, rfl⟩
  rw [← hrun] at H₄
  refine ok_of_dropClient H ha hskel H₄ (fun b p c' ip => by rw [hflt]; rfl) hfltIntra
    (fun b d t hbd => ?_) (fun b d hbd => ?_) hctx hctxIntra
  · rw [hrt]
    simp only [withoutClient]
    tauto
  · rw [hrtIntra]
    tauto

end LanToLan

end Ipacm
