import OcnDevice.Ipacm.LanToLan.Records

/-!
# Which rules are there

`Filled F s` says that the records of `s` have handles for exactly the cells of `F`, and that the driver
has exactly the rules and contexts that these handles name.  Each primitive operation fills cells or
empties them (`Filled.onPeer`, `Filled.rt_step`, `Filled.addHdrProcCtx`, …).

What an operation on handles cannot change is the skeleton of the state: the lists, the flags and the
counters, with the handles left out.
-/

namespace Ipacm

/-! ## The skeleton -/

/-- The information about a peer without its filter rules. -/
def PeerIfaceInfo.bare (peer : PeerIfaceInfo) : PeerIfaceInfo := { peer with fltRule := [] }

/-- An interface without its handles. -/
def LanToLanIface.bare (n : LanToLanIface) : LanToLanIface :=
  { n with
    hdrProcCtxForInterInterface := fun _ => 0
    hdrProcCtxForIntraInterface := 0
    peerIfaceInfo := n.peerIfaceInfo.map PeerIfaceInfo.bare
    intraInterfaceInfo := n.intraInterfaceInfo.bare }

/-- The state without the handles and without the driver. -/
@[ext] structure Skeleton where
  iface : List ℕ
  cached : List EthBridgeEvt
  alloc : ℕ → ℕ
  node : ℕ → LanToLanIface
  mac : ℕ → Mac

namespace LanToLan

/-- The skeleton of a state. -/
def skel (s : LanToLan) : Skeleton where
  iface := s.iface
  cached := s.cachedClientAddEvent
  alloc := s.alloc
  node a := (s.node a).bare
  mac c := (s.client c).macAddr

/-- The address of each client. -/
def mac (s : LanToLan) (c : ℕ) : Mac := (s.client c).macAddr

section Skel

variable {s t : LanToLan} (h : t.skel = s.skel)
include h

lemma skel_iface : t.iface = s.iface := congrArg Skeleton.iface h

lemma skel_node (a : ℕ) : (t.node a).bare = (s.node a).bare := congrFun (congrArg Skeleton.node h) a

lemma skel_pIface (a : ℕ) : (t.node a).pIface = (s.node a).pIface :=
  (congrArg LanToLanIface.pIface (skel_node h a) :)

lemma skel_assigned (a : ℕ) : (t.node a).isIpAddrAssigned = (s.node a).isIpAddrAssigned :=
  (congrArg LanToLanIface.isIpAddrAssigned (skel_node h a) :)

lemma skel_intra (a : ℕ) :
    (t.node a).supportIntraIfaceOffload = (s.node a).supportIntraIfaceOffload :=
  (congrArg LanToLanIface.supportIntraIfaceOffload (skel_node h a) :)

lemma skel_ref (a : ℕ) : (t.node a).refCntPeerL2HdrType = (s.node a).refCntPeerL2HdrType :=
  (congrArg LanToLanIface.refCntPeerL2HdrType (skel_node h a) :)

lemma skel_clientInfo (a : ℕ) : (t.node a).clientInfo = (s.node a).clientInfo :=
  (congrArg LanToLanIface.clientInfo (skel_node h a) :)

lemma skel_peers (a : ℕ) : (t.node a).peerIfaceInfo.map PeerIfaceInfo.bare =
    (s.node a).peerIfaceInfo.map PeerIfaceInfo.bare :=
  (congrArg LanToLanIface.peerIfaceInfo (skel_node h a) :)

lemma skel_intraInfo (a : ℕ) :
    (t.node a).intraInterfaceInfo.bare = (s.node a).intraInterfaceInfo.bare :=
  (congrArg LanToLanIface.intraInterfaceInfo (skel_node h a) :)

lemma skel_l2 (lan : ℕ → LanProps) (a : ℕ) : t.l2 lan a = s.l2 lan a := by
  rw [l2, l2, skel_pIface h]

lemma skel_peerKeys (a : ℕ) :
    (t.node a).peerIfaceInfo.map (·.peer) = (s.node a).peerIfaceInfo.map (·.peer) := by
  have hkey : ∀ l : List PeerIfaceInfo, l.map (·.peer) = (l.map PeerIfaceInfo.bare).map (·.peer) := by
    intro l
    rw [List.map_map]
    rfl
  rw [hkey, skel_peers h, ← hkey]

end Skel

end LanToLan

/-! ## What the driver is asked to have -/

/-- The filter rules of an interface. -/
def LanToLanIface.heldFlt (mac : ℕ → Mac) (n : LanToLanIface) : Multiset (ℕ × EthFltRule) :=
  (n.peerIfaceInfo.map fun peer => peer.held n.pIface mac).sum +
    n.intraInterfaceInfo.held n.pIface mac

/-- The routing rules of a client name its interface by this. -/
lemma ClientInfo.held_congr {lan : ℕ → LanProps} {n n' : LanToLanIface} {x : ClientInfo}
    (hp : n'.pIface = n.pIface)
    (hc : n'.hdrProcCtxForInterInterface = n.hdrProcCtxForInterInterface)
    (hi : n'.hdrProcCtxForIntraInterface = n.hdrProcCtxForIntraInterface) :
    x.held lan n' = x.held lan n := by
  have hinter : n'.interRtRule lan = n.interRtRule lan := by
    funext mac t ip i
    rw [LanToLanIface.interRtRule, LanToLanIface.interRtRule, hp, hc]
  have hintra : n'.intraRtRule lan = n.intraRtRule lan := by
    funext mac ip i
    rw [LanToLanIface.intraRtRule, LanToLanIface.intraRtRule, hp, hi]
  simp only [ClientInfo.held, ClientInfo.heldInter, ClientInfo.heldIntra, hinter, hintra]

open scoped Classical in
/-- A context that is there when `on`. -/
noncomputable def ctxCell (on : Prop) (h : ℕ) (x : EthHdrProcCtx) : Multiset (ℕ × EthHdrProcCtx) :=
  if on then {(h, x)} else 0

lemma ctxCell_pos {on : Prop} (hon : on) {h : ℕ} {x : EthHdrProcCtx} :
    ctxCell on h x = {(h, x)} := if_pos hon

lemma ctxCell_neg {on : Prop} (hon : ¬ on) {h : ℕ} {x : EthHdrProcCtx} : ctxCell on h x = 0 :=
  if_neg hon

/-- The context of an interface for the traffic from an L2 type. -/
def LanToLanIface.ctxFor (lan : ℕ → LanProps) (n : LanToLanIface) (t : IpaHdrL2Type) :
    EthHdrProcCtx :=
  ⟨n.pIface, t, ethBridgeGetHdrProcType t (lan n.pIface).hdrL2Type⟩

/-- The contexts of an interface. -/
noncomputable def LanToLanIface.heldCtx (lan : ℕ → LanProps) (on : IpaHdrL2Type → Prop)
    (onIntra : Prop) (n : LanToLanIface) : Multiset (ℕ × EthHdrProcCtx) :=
  ∑ t, ctxCell (on t) (n.hdrProcCtxForInterInterface t) (n.ctxFor lan t) +
    ctxCell onIntra n.hdrProcCtxForIntraInterface (n.ctxFor lan (lan n.pIface).hdrL2Type)

lemma LanToLanIface.heldCtx_congr {lan : ℕ → LanProps} {n n' : LanToLanIface}
    {on : IpaHdrL2Type → Prop} {onIntra : Prop} (hp : n'.pIface = n.pIface)
    (hc : n'.hdrProcCtxForInterInterface = n.hdrProcCtxForInterInterface)
    (hi : n'.hdrProcCtxForIntraInterface = n.hdrProcCtxForIntraInterface) :
    n'.heldCtx lan on onIntra = n.heldCtx lan on onIntra := by
  simp only [heldCtx, ctxFor, hp, hc, hi]

/-- Where there are rules and contexts: on an interface for a client of a peer and a family; on an
interface for a client of its own; for a client and an L2 type; for a client within its interface; on an
interface for an L2 type; on an interface for itself. -/
structure Cells where
  flt : ℕ → ℕ → ℕ → IpType → Prop
  fltIntra : ℕ → ℕ → IpType → Prop
  rt : ℕ → ℕ → IpaHdrL2Type → Prop
  rtIntra : ℕ → ℕ → Prop
  ctx : ℕ → IpaHdrL2Type → Prop
  ctxIntra : ℕ → Prop

namespace LanToLan

variable (lan : ℕ → LanProps) (F : Cells) (s : LanToLan)

/-- The filter rules of all interfaces that are up. -/
def heldFlt : Multiset (ℕ × EthFltRule) := (s.iface.map fun a => (s.node a).heldFlt s.mac).sum

/-- The clients with their interfaces. -/
def owned : List (ℕ × ℕ) := s.iface.flatMap fun a => (s.node a).clientInfo.map fun c => (a, c)

/-- The routing rules of all clients. -/
def heldRt : Multiset (ℕ × EthRtRule) :=
  (s.owned.map fun q => (s.client q.2).held lan (s.node q.1)).sum

/-- The contexts of all interfaces that are up. -/
noncomputable def heldCtx : Multiset (ℕ × EthHdrProcCtx) :=
  (s.iface.map fun a => (s.node a).heldCtx lan (F.ctx a) (F.ctxIntra a)).sum

/-- The records have handles for exactly the cells of `F`, and the driver has what they name. -/
structure Filled : Prop where
  iface : s.iface.Nodup
  clients : s.clients.Nodup
  peers : ∀ a ∈ s.iface, ((s.node a).peerIfaceInfo.map (·.peer)).Nodup
  flt : ∀ a ∈ s.iface, ∀ peer ∈ (s.node a).peerIfaceInfo, FltOk (F.flt a peer.peer) peer.fltRule
  fltIntra : ∀ a ∈ s.iface, FltOk (F.fltIntra a) (s.node a).intraInterfaceInfo.fltRule
  rt : ∀ a ∈ s.iface, ∀ c ∈ (s.node a).clientInfo,
    RtOk (lan (s.node a).pIface).eachClientRtRuleCount (F.rt a c) (F.rtIntra a c) (s.client c)
  heldFlt : s.flt.Holds s.heldFlt
  heldRt : s.rt.Holds (s.heldRt lan)
  heldCtx : s.ctx.Holds (s.heldCtx lan F)

/-! ## Access -/

variable {lan F s} {t : LanToLan} {F' : Cells} {a b c p : ℕ}

lemma modNode_self (f : LanToLanIface → LanToLanIface) : (s.modNode a f).node a = f (s.node a) :=
  Function.update_self ..

lemma modNode_ne (f : LanToLanIface → LanToLanIface) (h : b ≠ a) :
    (s.modNode a f).node b = s.node b := Function.update_of_ne h ..

lemma mem_clients (ha : a ∈ s.iface) (hc : c ∈ (s.node a).clientInfo) : c ∈ s.clients :=
  List.mem_flatMap.mpr ⟨a, ha, hc⟩

lemma mem_owned : (a, c) ∈ s.owned ↔ a ∈ s.iface ∧ c ∈ (s.node a).clientInfo := by
  simp [owned]

lemma owned_snd : s.owned.map Prod.snd = s.clients := by
  simp [owned, clients, List.map_flatMap, Function.comp_def]

/-- A client belongs to one interface. -/
lemma Filled.owner (H : Filled lan F s) (ha : a ∈ s.iface) (hb : b ∈ s.iface)
    (hca : c ∈ (s.node a).clientInfo) (hcb : c ∈ (s.node b).clientInfo) : a = b := by
  have hn := H.clients
  rw [← owned_snd] at hn
  exact congrArg Prod.fst (List.inj_on_of_nodup_map hn (mem_owned.mpr ⟨ha, hca⟩)
    (mem_owned.mpr ⟨hb, hcb⟩) rfl)

lemma nodup_clientInfo (H : s.clients.Nodup) (ha : a ∈ s.iface) :
    (s.node a).clientInfo.Nodup :=
  (List.nodup_flatMap.mp H).1 a ha

/-! ## Cells that agree -/

/-- Two sets of cells agree on everything that is up. -/
structure Agree (s : LanToLan) (F F' : Cells) : Prop where
  flt : ∀ a ∈ s.iface, ∀ p ∈ (s.node a).peerIfaceInfo.map (·.peer), ∀ c ip,
    F.flt a p c ip ↔ F'.flt a p c ip
  fltIntra : ∀ a ∈ s.iface, ∀ c ip, F.fltIntra a c ip ↔ F'.fltIntra a c ip
  rt : ∀ a ∈ s.iface, ∀ c ∈ (s.node a).clientInfo, ∀ t, F.rt a c t ↔ F'.rt a c t
  rtIntra : ∀ a ∈ s.iface, ∀ c ∈ (s.node a).clientInfo, F.rtIntra a c ↔ F'.rtIntra a c
  ctx : ∀ a ∈ s.iface, ∀ t, F.ctx a t ↔ F'.ctx a t
  ctxIntra : ∀ a ∈ s.iface, F.ctxIntra a ↔ F'.ctxIntra a

lemma Filled.congr (H : Filled lan F s) (h : s.Agree F F') : Filled lan F' s where
  iface := H.iface
  clients := H.clients
  peers := H.peers
  flt a ha peer hp := (H.flt a ha peer hp).congr fun c ip =>
    h.flt a ha peer.peer (List.mem_map_of_mem hp) c ip
  fltIntra a ha := (H.fltIntra a ha).congr (h.fltIntra a ha)
  rt a ha c hc := by
    have hrt : F.rt a c = F'.rt a c := funext fun t => propext (h.rt a ha c hc t)
    have hintra : F.rtIntra a c = F'.rtIntra a c := propext (h.rtIntra a ha c hc)
    rw [← hrt, ← hintra]
    exact H.rt a ha c hc
  heldFlt := H.heldFlt
  heldRt := H.heldRt
  heldCtx := H.heldCtx.of_eq (by
    rw [LanToLan.heldCtx, LanToLan.heldCtx]
    congr 1
    refine List.map_congr_left fun a ha => ?_
    have hctx : F.ctx a = F'.ctx a := funext fun t => propext (h.ctx a ha t)
    have hintra : F.ctxIntra a = F'.ctxIntra a := propext (h.ctxIntra a ha)
    rw [hctx, hintra])

/-! ## Frames -/

/-- One interface changes, and filter rules only with it. -/
lemma exists_frame_flt (hnd : s.iface.Nodup) (ha : a ∈ s.iface) : ∃ G,
    ∀ (t : LanToLan) (n : LanToLanIface), t.iface = s.iface → t.mac = s.mac →
      t.node = Function.update s.node a n → t.heldFlt = G + n.heldFlt s.mac := by
  obtain ⟨G, hG⟩ := exists_frame_update (f := s.node) (i := a) id
    (fun _ n => LanToLanIface.heldFlt s.mac n) (by rwa [List.map_id]) ha
  refine ⟨G, fun t n hi hm hn => ?_⟩
  rw [heldFlt, hi, hm, hn]
  exact hG n

variable (lan) in
/-- One client changes, and routing rules only with it. -/
lemma exists_frame_rt (hnd : s.clients.Nodup) (ha : a ∈ s.iface) (hc : c ∈ (s.node a).clientInfo) :
    ∃ G, ∀ (t : LanToLan) (x : ClientInfo), t.iface = s.iface → t.node = s.node →
      t.client = Function.update s.client c x → t.heldRt lan = G + x.held lan (s.node a) := by
  obtain ⟨G, hG⟩ := exists_frame_update (f := s.client) (i := (a, c)) Prod.snd
    (fun q x => ClientInfo.held lan (s.node q.1) x) (owned_snd ▸ hnd) (mem_owned.mpr ⟨ha, hc⟩)
  refine ⟨G, fun t x hi hn hcl => ?_⟩
  rw [heldRt, owned, hi, hn, hcl]
  exact hG x

variable (lan) in
/-- Routing rules do not change with what they do not name. -/
lemma heldRt_congr (hi : t.iface = s.iface)
    (hn : ∀ a ∈ s.iface, (t.node a).clientInfo = (s.node a).clientInfo ∧
      ∀ c ∈ (s.node a).clientInfo,
        (t.client c).held lan (t.node a) = (s.client c).held lan (s.node a)) :
    t.heldRt lan = s.heldRt lan := by
  have howned : t.owned = s.owned := by
    rw [owned, owned, hi]
    refine List.flatMap_congr fun a ha => ?_
    rw [(hn a ha).1]
  rw [heldRt, heldRt, howned]
  congr 1
  refine List.map_congr_left fun q hq => ?_
  have hmem := mem_owned.mp (show (q.1, q.2) ∈ s.owned from hq)
  exact (hn q.1 hmem.1).2 q.2 hmem.2

lemma heldCtx_congr (hi : t.iface = s.iface)
    (hn : ∀ a ∈ s.iface, (t.node a).heldCtx lan (F'.ctx a) (F'.ctxIntra a) =
      (s.node a).heldCtx lan (F.ctx a) (F.ctxIntra a)) :
    t.heldCtx lan F' = s.heldCtx lan F := by
  rw [heldCtx, heldCtx, hi]
  congr 1
  exact List.map_congr_left hn

variable (lan) in
/-- One interface changes, and contexts only with it. -/
lemma exists_frame_ctx (hnd : s.iface.Nodup) (ha : a ∈ s.iface) : ∃ G,
    ∀ (t : LanToLan) (F' : Cells) (n : LanToLanIface) (on : IpaHdrL2Type → Prop) (onIntra : Prop),
      t.iface = s.iface → t.node = Function.update s.node a n →
      F'.ctx = Function.update F.ctx a on → F'.ctxIntra = Function.update F.ctxIntra a onIntra →
      t.heldCtx lan F' = G + n.heldCtx lan on onIntra := by
  obtain ⟨G, hG⟩ := exists_frame_update (f := fun a => (s.node a, F.ctx a, F.ctxIntra a))
    (i := a) id
    (fun _ (v : LanToLanIface × (IpaHdrL2Type → Prop) × Prop) => v.1.heldCtx lan v.2.1 v.2.2)
    (by rwa [List.map_id]) ha
  refine ⟨G, fun t F' n on onIntra hi hn hon hintra => ?_⟩
  rw [← hG (n, on, onIntra), heldCtx, hi, hn, hon, hintra]
  congr 1
  refine List.map_congr_left fun b _ => ?_
  rcases eq_or_ne b a with rfl | hb
  · simp
  · simp [Function.update_of_ne hb]

/-! ## Filter rules -/

end LanToLan

namespace Cells

variable (F : Cells) (a : ℕ)

/-- The filter rules of an interface for the clients of a peer become those of `D`. -/
def setFlt (p : ℕ) (D : ℕ → IpType → Prop) : Cells :=
  { F with flt := Function.update F.flt a (Function.update (F.flt a) p D) }

/-- The filter rules of an interface for its own clients become those of `D`. -/
def setFltIntra (D : ℕ → IpType → Prop) : Cells :=
  { F with fltIntra := Function.update F.fltIntra a D }

/-- The routing rules of a client become those of `T` and `I`. -/
def setRt (c : ℕ) (T : IpaHdrL2Type → Prop) (I : Prop) : Cells :=
  { F with
    rt := Function.update F.rt a (Function.update (F.rt a) c T)
    rtIntra := Function.update F.rtIntra a (Function.update (F.rtIntra a) c I) }

/-- The contexts of an interface become those of `on` and `onIntra`. -/
def setCtx (on : IpaHdrL2Type → Prop) (onIntra : Prop) : Cells :=
  { F with
    ctx := Function.update F.ctx a on
    ctxIntra := Function.update F.ctxIntra a onIntra }

variable {F a} {b p q c d : ℕ} {ip : IpType} {t : IpaHdrL2Type} {D : ℕ → IpType → Prop}
  {T : IpaHdrL2Type → Prop} {I : Prop}

@[simp] lemma setFlt_fltIntra : (F.setFlt a p D).fltIntra = F.fltIntra := rfl

@[simp] lemma setFlt_rt : (F.setFlt a p D).rt = F.rt := rfl

@[simp] lemma setFlt_rtIntra : (F.setFlt a p D).rtIntra = F.rtIntra := rfl

@[simp] lemma setFlt_ctx : (F.setFlt a p D).ctx = F.ctx := rfl

@[simp] lemma setFlt_ctxIntra : (F.setFlt a p D).ctxIntra = F.ctxIntra := rfl

@[simp] lemma setFltIntra_flt : (F.setFltIntra a D).flt = F.flt := rfl

@[simp] lemma setFltIntra_rt : (F.setFltIntra a D).rt = F.rt := rfl

@[simp] lemma setFltIntra_rtIntra : (F.setFltIntra a D).rtIntra = F.rtIntra := rfl

@[simp] lemma setFltIntra_ctx : (F.setFltIntra a D).ctx = F.ctx := rfl

@[simp] lemma setFltIntra_ctxIntra : (F.setFltIntra a D).ctxIntra = F.ctxIntra := rfl

@[simp] lemma setRt_flt : (F.setRt a c T I).flt = F.flt := rfl

@[simp] lemma setRt_fltIntra : (F.setRt a c T I).fltIntra = F.fltIntra := rfl

@[simp] lemma setRt_ctx : (F.setRt a c T I).ctx = F.ctx := rfl

@[simp] lemma setRt_ctxIntra : (F.setRt a c T I).ctxIntra = F.ctxIntra := rfl

@[simp] lemma setCtx_flt : (F.setCtx a T I).flt = F.flt := rfl

@[simp] lemma setCtx_fltIntra : (F.setCtx a T I).fltIntra = F.fltIntra := rfl

@[simp] lemma setCtx_rt : (F.setCtx a T I).rt = F.rt := rfl

@[simp] lemma setCtx_rtIntra : (F.setCtx a T I).rtIntra = F.rtIntra := rfl

lemma setFlt_iff : (F.setFlt a p D).flt b q c ip ↔
    (b = a ∧ q = p ∧ D c ip) ∨ (¬ (b = a ∧ q = p) ∧ F.flt b q c ip) := by
  rw [setFlt]
  rcases eq_or_ne b a with rfl | hb
  · rcases eq_or_ne q p with rfl | hq
    · simp
    · simp [hq]
  · simp [hb]

lemma setFltIntra_iff : (F.setFltIntra a D).fltIntra b c ip ↔
    (b = a ∧ D c ip) ∨ (b ≠ a ∧ F.fltIntra b c ip) := by
  rw [setFltIntra]
  rcases eq_or_ne b a with rfl | hb
  · simp
  · simp [hb]

lemma setRt_iff : (F.setRt a c T I).rt b d t ↔
    (b = a ∧ d = c ∧ T t) ∨ (¬ (b = a ∧ d = c) ∧ F.rt b d t) := by
  rw [setRt]
  rcases eq_or_ne b a with rfl | hb
  · rcases eq_or_ne d c with rfl | hd
    · simp
    · simp [hd]
  · simp [hb]

lemma setRt_intra_iff : (F.setRt a c T I).rtIntra b d ↔
    (b = a ∧ d = c ∧ I) ∨ (¬ (b = a ∧ d = c) ∧ F.rtIntra b d) := by
  rw [setRt]
  rcases eq_or_ne b a with rfl | hb
  · rcases eq_or_ne d c with rfl | hd
    · simp
    · simp [hd]
  · simp [hb]

lemma setCtx_iff : (F.setCtx a T I).ctx b t ↔ (b = a ∧ T t) ∨ (b ≠ a ∧ F.ctx b t) := by
  rw [setCtx]
  rcases eq_or_ne b a with rfl | hb
  · simp
  · simp [hb]

lemma setCtx_intra_iff : (F.setCtx a T I).ctxIntra b ↔ (b = a ∧ I) ∨ (b ≠ a ∧ F.ctxIntra b) := by
  rw [setCtx]
  rcases eq_or_ne b a with rfl | hb
  · simp
  · simp [hb]

end Cells

namespace PeerIfaceInfo

variable {q r : PeerIfaceInfo}

lemma SameBut.bare (h : q.SameBut r) : r.bare = q.bare := by
  rw [SameBut] at h
  rw [h]
  rfl

lemma SameBut.peer (h : q.SameBut r) : r.peer = q.peer := by
  rw [SameBut] at h
  rw [h]

end PeerIfaceInfo

namespace LanToLan

variable {lan : ℕ → LanProps} {F : Cells} {s : LanToLan} {a b c : ℕ} {D : ℕ → IpType → Prop}
  {f : PeerIfaceInfo → Bank EthFltRule → PeerIfaceInfo × Bank EthFltRule}

/-- The filter rules of an interface change, in the information about others and about itself. -/
lemma Filled.ofFlt (H : Filled lan F s) (ha : a ∈ s.iface) {t : LanToLan} {n : LanToLanIface}
    (ht : t = { s with flt := t.flt, node := Function.update s.node a n })
    (hn : n = { s.node a with
      peerIfaceInfo := n.peerIfaceInfo, intraInterfaceInfo := n.intraInterfaceInfo })
    (hpeers : (n.peerIfaceInfo.map (·.peer)).Nodup)
    {F' : Cells} (hF : F' = { F with flt := F'.flt, fltIntra := F'.fltIntra })
    (hother : ∀ b, b ≠ a → F'.flt b = F.flt b ∧ F'.fltIntra b = F.fltIntra b)
    (hflt : ∀ peer ∈ n.peerIfaceInfo, FltOk (F'.flt a peer.peer) peer.fltRule)
    (hintra : FltOk (F'.fltIntra a) n.intraInterfaceInfo.fltRule)
    (hheld : ∀ G, s.flt.Holds (G + (s.node a).heldFlt s.mac) →
      t.flt.Holds (G + n.heldFlt s.mac)) : Filled lan F' t := by
  have hnode : t.node = Function.update s.node a n := by rw [ht]
  have hiface : t.iface = s.iface := by rw [ht]
  have hclient : t.client = s.client := by rw [ht]
  have hself : t.node a = n := by rw [hnode, Function.update_self]
  have hne : ∀ b, b ≠ a → t.node b = s.node b := fun b hb => by
    rw [hnode, Function.update_of_ne hb]
  have hinfo : ∀ b, (t.node b).clientInfo = (s.node b).clientInfo ∧
      (t.node b).pIface = (s.node b).pIface ∧
      (t.node b).hdrProcCtxForInterInterface = (s.node b).hdrProcCtxForInterInterface ∧
      (t.node b).hdrProcCtxForIntraInterface = (s.node b).hdrProcCtxForIntraInterface := by
    intro b
    rcases eq_or_ne b a with rfl | hb
    · rw [hself, hn]
      exact ⟨rfl, rfl, rfl, rfl⟩
    · rw [hne b hb]
      exact ⟨rfl, rfl, rfl, rfl⟩
  have hclients : t.clients = s.clients := by
    rw [LanToLan.clients, LanToLan.clients, hiface]
    simp only [hinfo]
  obtain ⟨G, hG⟩ := exists_frame_flt H.iface ha
  refine ⟨hiface ▸ H.iface, hclients ▸ H.clients, ?_, ?_, ?_, ?_, ?_, ?_, ?_⟩
  · intro b hb
    rw [hiface] at hb
    rcases eq_or_ne b a with rfl | hba
    · rw [hself]
      exact hpeers
    · rw [hne b hba]
      exact H.peers b hb
  · intro b hb peer hp
    rw [hiface] at hb
    rcases eq_or_ne b a with rfl | hba
    · rw [hself] at hp
      exact hflt peer hp
    · rw [hne b hba] at hp
      rw [(hother b hba).1]
      exact H.flt b hb peer hp
  · intro b hb
    rw [hiface] at hb
    rcases eq_or_ne b a with rfl | hba
    · rw [hself]
      exact hintra
    · rw [hne b hba, (hother b hba).2]
      exact H.fltIntra b hb
  · intro b hb c hc
    rw [hiface] at hb
    rw [(hinfo b).1] at hc
    rw [(hinfo b).2.1, hclient, hF]
    exact H.rt b hb c hc
  · have hs : s.heldFlt = G + (s.node a).heldFlt s.mac :=
      hG s (s.node a) rfl rfl (Function.update_eq_self ..).symm
    have hmac : t.mac = s.mac := by
      show (fun c => (t.client c).macAddr) = _
      rw [hclient]
      rfl
    rw [hG t n hiface hmac hnode]
    exact hheld G (H.heldFlt.of_eq hs)
  · have hrt : t.rt = s.rt := by rw [ht]
    rw [hrt, heldRt_congr lan hiface fun b _ => ⟨(hinfo b).1, fun c _ => ?_⟩]
    · exact H.heldRt
    · rw [hclient]
      exact ClientInfo.held_congr (hinfo b).2.1 (hinfo b).2.2.1 (hinfo b).2.2.2
  · have hctx : t.ctx = s.ctx := by rw [ht]
    rw [hctx, heldCtx_congr (F := F) hiface fun b _ => ?_]
    · exact H.heldCtx
    · rw [hF]
      exact LanToLanIface.heldCtx_congr (hinfo b).2.1 (hinfo b).2.2.1 (hinfo b).2.2.2

/-- **The filter rules for one peer change.** -/
lemma Filled.onPeer (H : Filled lan F s) (ha : a ∈ s.iface) {peer : PeerIfaceInfo}
    (hp : peer ∈ (s.node a).peerIfaceInfo)
    (hf : ∀ G, s.flt.Holds (G + peer.held (s.node a).pIface s.mac) →
      PeerIfaceInfo.Turns (s.node a).pIface s.mac peer (f peer s.flt) G D) :
    Filled lan (F.setFlt a peer.peer D) (s.onPeer a peer.peer f) ∧
      (s.onPeer a peer.peer f).skel = s.skel := by
  obtain ⟨l₁, l₂, hl⟩ := List.append_of_mem hp
  have hnd := H.peers a ha
  rw [hl, List.map_append, List.map_cons, List.nodup_middle, List.nodup_cons,
    List.mem_append] at hnd
  have hother : ∀ q, q ∈ l₁ ∨ q ∈ l₂ → q.peer ≠ peer.peer := by
    intro q hq heq
    exact hnd.1 (hq.imp (fun h => heq ▸ List.mem_map_of_mem h)
      fun h => heq ▸ List.mem_map_of_mem h)
  set r := f peer s.flt with hr
  set n : LanToLanIface := { s.node a with peerIfaceInfo := l₁ ++ r.1 :: l₂ } with hn
  have hrun : s.onPeer a peer.peer f =
      { s with flt := r.2, node := Function.update s.node a n } := by
    have hfirst : onFirst (fun q => decide (q.peer = peer.peer)) f (s.node a).peerIfaceInfo s.flt =
        (l₁ ++ r.1 :: l₂, r.2) := by
      rw [hl, onFirst_eq (fun q hq => by simpa using hother q (Or.inl hq)) (by simp)]
    rw [LanToLan.onPeer, hfirst]
    rfl
  have hsplit : ∀ q : PeerIfaceInfo, ∀ m : LanToLanIface, m.peerIfaceInfo = l₁ ++ q :: l₂ →
      m.heldFlt s.mac = ((l₁ ++ l₂).map fun q => q.held m.pIface s.mac).sum +
        m.intraInterfaceInfo.held m.pIface s.mac + q.held m.pIface s.mac := by
    intro q m hm
    rw [LanToLanIface.heldFlt, hm]
    simp only [List.map_append, List.map_cons, List.sum_append, List.sum_cons]
    abel
  have hturn : ∀ G, s.flt.Holds (G + (s.node a).heldFlt s.mac) →
      PeerIfaceInfo.Turns (s.node a).pIface s.mac peer r
        (G + (((l₁ ++ l₂).map fun q => q.held (s.node a).pIface s.mac).sum +
          (s.node a).intraInterfaceInfo.held (s.node a).pIface s.mac)) D := by
    intro G hG
    refine hf _ (hG.of_eq ?_)
    rw [hsplit peer _ hl, ← add_assoc]
  obtain ⟨G, hG⟩ := exists_frame_flt H.iface ha
  have hs : s.heldFlt = G + (s.node a).heldFlt s.mac :=
    hG s (s.node a) rfl rfl (Function.update_eq_self ..).symm
  have hok := hturn G (H.heldFlt.of_eq hs)
  rw [hrun]
  constructor
  · refine H.ofFlt ha (n := n) rfl rfl ?_ rfl (fun b hb => ?_) (fun q hq => ?_) ?_ fun G' hG' => ?_
    · have hkeys : n.peerIfaceInfo.map (·.peer) = (s.node a).peerIfaceInfo.map (·.peer) := by
        rw [hn, hl]
        simp [hok.same.peer]
      rw [hkeys]
      exact H.peers a ha
    · exact ⟨Function.update_of_ne hb .., rfl⟩
    · have hset : (F.setFlt a peer.peer D).flt a = Function.update (F.flt a) peer.peer D :=
        Function.update_self ..
      rw [hset]
      have hq' : q ∈ l₁ ++ r.1 :: l₂ := hq
      rw [List.mem_append, List.mem_cons] at hq'
      have hold : q ∈ l₁ ∨ q ∈ l₂ →
          FltOk (Function.update (F.flt a) peer.peer D q.peer) q.fltRule := by
        intro h
        rw [Function.update_of_ne (hother q h)]
        exact H.flt a ha q (by rw [hl]; rcases h with h | h <;> simp [h])
      rcases hq' with h | rfl | h
      · exact hold (Or.inl h)
      · rw [hok.same.peer, Function.update_self]
        exact hok.ok
      · exact hold (Or.inr h)
    · exact H.fltIntra a ha
    · refine (hturn G' hG').holds.of_eq ?_
      rw [hsplit r.1 n rfl, add_assoc]
  · ext1
    · rfl
    · rfl
    · rfl
    · funext b
      show (Function.update s.node a n b).bare = (s.node b).bare
      rcases eq_or_ne b a with rfl | hb
      · rw [Function.update_self]
        simp only [LanToLanIface.bare, hn, hl, List.map_append, List.map_cons, hok.same.bare]
      · rw [Function.update_of_ne hb]
    · rfl

/-- **The filter rules for the interface's own clients change.** -/
lemma Filled.onIntra (H : Filled lan F s) (ha : a ∈ s.iface)
    (hf : ∀ G, s.flt.Holds (G + (s.node a).intraInterfaceInfo.held (s.node a).pIface s.mac) →
      PeerIfaceInfo.Turns (s.node a).pIface s.mac (s.node a).intraInterfaceInfo
        (f (s.node a).intraInterfaceInfo s.flt) G D) :
    Filled lan (F.setFltIntra a D) (s.onIntra a f) ∧ (s.onIntra a f).skel = s.skel := by
  set r := f (s.node a).intraInterfaceInfo s.flt with hr
  set n : LanToLanIface := { s.node a with intraInterfaceInfo := r.1 } with hn
  have hrun : s.onIntra a f = { s with flt := r.2, node := Function.update s.node a n } := rfl
  have hturn : ∀ G, s.flt.Holds (G + (s.node a).heldFlt s.mac) →
      PeerIfaceInfo.Turns (s.node a).pIface s.mac (s.node a).intraInterfaceInfo r
        (G + ((s.node a).peerIfaceInfo.map fun q => q.held (s.node a).pIface s.mac).sum) D := by
    intro G hG
    refine hf _ (hG.of_eq ?_)
    rw [LanToLanIface.heldFlt, add_assoc]
  obtain ⟨G, hG⟩ := exists_frame_flt H.iface ha
  have hs : s.heldFlt = G + (s.node a).heldFlt s.mac :=
    hG s (s.node a) rfl rfl (Function.update_eq_self ..).symm
  have hok := hturn G (H.heldFlt.of_eq hs)
  rw [hrun]
  constructor
  · refine H.ofFlt ha (n := n) rfl rfl (H.peers a ha) rfl (fun b hb => ?_) (fun q hq => ?_) ?_ fun G' hG' => ?_
    · exact ⟨rfl, Function.update_of_ne hb ..⟩
    · exact H.flt a ha q hq
    · show FltOk (Function.update F.fltIntra a D a) r.1.fltRule
      rw [Function.update_self]
      exact hok.ok
    · refine (hturn G' hG').holds.of_eq ?_
      rw [LanToLanIface.heldFlt, add_assoc]
  · ext1
    · rfl
    · rfl
    · rfl
    · funext b
      show (Function.update s.node a n b).bare = (s.node b).bare
      rcases eq_or_ne b a with rfl | hb
      · rw [Function.update_self]
        simp only [LanToLanIface.bare, hn, hok.same.bare]
      · rw [Function.update_of_ne hb]
    · rfl

/-- Nothing that has handles changes. -/
lemma Filled.frame (H : Filled lan F s) {t : LanToLan}
    (ht : t = { s with
      cachedClientAddEvent := t.cachedClientAddEvent, node := t.node, alloc := t.alloc })
    (hn : ∀ a ∈ s.iface, t.node a = { s.node a with
      isIpAddrAssigned := (t.node a).isIpAddrAssigned
      refCntPeerL2HdrType := (t.node a).refCntPeerL2HdrType }) : Filled lan F t := by
  have hiface : t.iface = s.iface := by rw [ht]
  have hclient : t.client = s.client := by rw [ht]
  have hmac : t.mac = s.mac := by
    show (fun c => (t.client c).macAddr) = _
    rw [hclient]
    rfl
  have hclients : t.clients = s.clients := by
    rw [LanToLan.clients, LanToLan.clients, hiface]
    refine List.flatMap_congr fun a ha => ?_
    rw [hn a ha]
  refine ⟨hiface ▸ H.iface, hclients ▸ H.clients, ?_, ?_, ?_, ?_, ?_, ?_, ?_⟩
  · intro b hb
    rw [hiface] at hb
    rw [hn b hb]
    exact H.peers b hb
  · intro b hb peer hp
    rw [hiface] at hb
    rw [hn b hb] at hp
    exact H.flt b hb peer hp
  · intro b hb
    rw [hiface] at hb
    rw [hn b hb]
    exact H.fltIntra b hb
  · intro b hb c hc
    rw [hiface] at hb
    rw [hn b hb] at hc
    rw [hn b hb, hclient]
    exact H.rt b hb c hc
  · have hflt : t.flt = s.flt := by rw [ht]
    rw [hflt]
    refine H.heldFlt.of_eq ?_
    rw [LanToLan.heldFlt, LanToLan.heldFlt, hiface, hmac]
    congr 1
    refine List.map_congr_left fun b hb => ?_
    rw [hn b hb]
    rfl
  · have hrt : t.rt = s.rt := by rw [ht]
    rw [hrt]
    refine H.heldRt.of_eq (heldRt_congr _ hiface fun b hb => ⟨by rw [hn b hb], fun c _ => ?_⟩).symm
    rw [hclient, hn b hb]
    exact ClientInfo.held_congr rfl rfl rfl
  · have hctx : t.ctx = s.ctx := by rw [ht]
    rw [hctx]
    refine H.heldCtx.of_eq (heldCtx_congr hiface fun b hb => ?_).symm
    rw [hn b hb]
    rfl

/-! ## Routing rules -/

/-- **The routing rules of a client change.** -/
lemma Filled.ofRt (H : Filled lan F s) (ha : a ∈ s.iface) (hc : c ∈ (s.node a).clientInfo)
    {t : LanToLan} {T : IpaHdrL2Type → Prop} {I : Prop}
    (h : ∀ G, s.rt.Holds (G + (s.client c).held lan (s.node a)) →
      ∃ x, RtTurns lan s a c t x G T I) :
    Filled lan (F.setRt a c T I) t ∧ t.skel = s.skel := by
  obtain ⟨G, hG⟩ := exists_frame_rt lan H.clients ha hc
  obtain ⟨x, hx⟩ := h G (H.heldRt.of_eq (hG s (s.client c) rfl rfl (Function.update_eq_self ..).symm))
  have hnode : t.node = s.node := by rw [hx.eq]
  have hiface : t.iface = s.iface := by rw [hx.eq]
  have hclient : t.client = Function.update s.client c x := by rw [hx.eq]
  have hmac : t.mac = s.mac := by
    funext d
    show (t.client d).macAddr = (s.client d).macAddr
    rw [hclient]
    rcases eq_or_ne d c with rfl | hd
    · rw [Function.update_self, hx.mac]
    · rw [Function.update_of_ne hd]
  constructor
  · refine ⟨hiface ▸ H.iface, ?_, ?_, ?_, ?_, ?_, ?_, ?_, ?_⟩
    · rw [LanToLan.clients, hiface, hnode]
      exact H.clients
    · rw [hiface, hnode]
      exact H.peers
    · rw [hiface, hnode]
      exact H.flt
    · rw [hiface, hnode]
      exact H.fltIntra
    · rw [hiface, hnode, hclient]
      intro b hb d hd
      show RtOk _ (Function.update F.rt a _ b d) (Function.update F.rtIntra a _ b d) _
      rcases eq_or_ne b a with rfl | hba
      · rw [Function.update_self, Function.update_self]
        rcases eq_or_ne d c with rfl | hdc
        · rw [Function.update_self, Function.update_self, Function.update_self]
          exact hx.ok
        · rw [Function.update_of_ne hdc, Function.update_of_ne hdc, Function.update_of_ne hdc]
          exact H.rt b hb d hd
      · have hdc : d ≠ c := by
          rintro rfl
          exact hba (H.owner hb ha hd hc)
        rw [Function.update_of_ne hba, Function.update_of_ne hba, Function.update_of_ne hdc]
        exact H.rt b hb d hd
    · have hflt : t.flt = s.flt := by rw [hx.eq]
      rw [hflt]
      refine H.heldFlt.of_eq ?_
      rw [LanToLan.heldFlt, LanToLan.heldFlt, hiface, hmac, hnode]
    · exact hx.holds.of_eq (hG t x hiface hnode hclient).symm
    · have hctx : t.ctx = s.ctx := by rw [hx.eq]
      rw [hctx]
      exact H.heldCtx.of_eq (heldCtx_congr hiface fun b _ => by rw [hnode]; rfl).symm
  · ext1
    · exact hiface
    · show t.cachedClientAddEvent = _
      rw [hx.eq]
      rfl
    · show t.alloc = _
      rw [hx.eq]
      rfl
    · show (fun b => (t.node b).bare) = _
      rw [hnode]
      rfl
    · exact hmac

/-! ## Contexts -/

/-- The contexts of an interface change. -/
lemma Filled.ofCtx (H : Filled lan F s) (ha : a ∈ s.iface) {t : LanToLan} {n : LanToLanIface}
    {on : IpaHdrL2Type → Prop} {onIntra : Prop}
    (ht : t = { s with ctx := t.ctx, node := Function.update s.node a n })
    (hn : n = { s.node a with
      hdrProcCtxForInterInterface := n.hdrProcCtxForInterInterface
      hdrProcCtxForIntraInterface := n.hdrProcCtxForIntraInterface })
    (hrt : ∀ c ∈ (s.node a).clientInfo,
      (s.client c).held lan n = (s.client c).held lan (s.node a))
    (hheld : ∀ G, s.ctx.Holds (G + (s.node a).heldCtx lan (F.ctx a) (F.ctxIntra a)) →
      t.ctx.Holds (G + n.heldCtx lan on onIntra)) :
    Filled lan (F.setCtx a on onIntra) t ∧ t.skel = s.skel := by
  have hnode : t.node = Function.update s.node a n := by rw [ht]
  have hiface : t.iface = s.iface := by rw [ht]
  have hclient : t.client = s.client := by rw [ht]
  have hself : t.node a = n := by rw [hnode, Function.update_self]
  have hmac : t.mac = s.mac := by
    show (fun c => (t.client c).macAddr) = _
    rw [hclient]
    rfl
  have hsame : ∀ b, t.node b = { s.node b with
      hdrProcCtxForInterInterface := (t.node b).hdrProcCtxForInterInterface
      hdrProcCtxForIntraInterface := (t.node b).hdrProcCtxForIntraInterface } := by
    intro b
    rcases eq_or_ne b a with rfl | hb
    · rw [hself]
      exact hn
    · rw [hnode, Function.update_of_ne hb]
  have hclients : t.clients = s.clients := by
    rw [LanToLan.clients, LanToLan.clients, hiface]
    refine List.flatMap_congr fun b _ => ?_
    rw [hsame b]
  constructor
  · refine ⟨hiface ▸ H.iface, hclients ▸ H.clients, ?_, ?_, ?_, ?_, ?_, ?_, ?_⟩
    · intro b hb
      rw [hsame b]
      exact H.peers b (hiface ▸ hb)
    · intro b hb peer hp
      rw [hsame b] at hp
      exact H.flt b (hiface ▸ hb) peer hp
    · intro b hb
      rw [hsame b]
      exact H.fltIntra b (hiface ▸ hb)
    · intro b hb d hd
      rw [hsame b] at hd
      rw [hsame b, hclient]
      exact H.rt b (hiface ▸ hb) d hd
    · have hflt : t.flt = s.flt := by rw [ht]
      rw [hflt]
      refine H.heldFlt.of_eq ?_
      rw [LanToLan.heldFlt, LanToLan.heldFlt, hiface, hmac]
      congr 1
      refine List.map_congr_left fun b _ => ?_
      rw [hsame b]
      rfl
    · have heq : t.rt = s.rt := by rw [ht]
      rw [heq]
      refine H.heldRt.of_eq (heldRt_congr _ hiface fun b _ => ⟨by rw [hsame b], fun d hd => ?_⟩).symm
      rw [hclient]
      rcases eq_or_ne b a with rfl | hba
      · rw [hself]
        exact hrt d hd
      · rw [hnode, Function.update_of_ne hba]
    · obtain ⟨G, hG⟩ := exists_frame_ctx lan (F := F) H.iface ha
      have hs : s.heldCtx lan F = G + (s.node a).heldCtx lan (F.ctx a) (F.ctxIntra a) :=
        hG s F (s.node a) _ _ rfl (Function.update_eq_self ..).symm
          (Function.update_eq_self ..).symm (Function.update_eq_self ..).symm
      exact (hheld G (H.heldCtx.of_eq hs)).of_eq
        (hG t (F.setCtx a on onIntra) n on onIntra hiface hnode rfl rfl).symm
  · ext1
    · exact hiface
    · show t.cachedClientAddEvent = _
      rw [ht]
      rfl
    · show t.alloc = _
      rw [ht]
      rfl
    · funext b
      show (t.node b).bare = (s.node b).bare
      rw [hsame b]
      rfl
    · exact hmac

section Ctx

variable {n : LanToLanIface} {on : IpaHdrL2Type → Prop} {onIntra : Prop} {t : IpaHdrL2Type}

open Finset in
variable (lan) in
/-- The context for one L2 type, and the others. -/
lemma exists_frame_heldCtx (n : LanToLanIface) (on : IpaHdrL2Type → Prop) (onIntra : Prop)
    (t : IpaHdrL2Type) : ∃ G, ∀ (h : ℕ) (on' : IpaHdrL2Type → Prop),
    (∀ t', t' ≠ t → (on' t' ↔ on t')) →
    LanToLanIface.heldCtx lan on' onIntra { n with
        hdrProcCtxForInterInterface := Function.update n.hdrProcCtxForInterInterface t h } =
      G + ctxCell (on' t) h (n.ctxFor lan t) := by
  refine ⟨∑ t' ∈ univ.erase t,
      ctxCell (on t') (n.hdrProcCtxForInterInterface t') (n.ctxFor lan t') +
    ctxCell onIntra n.hdrProcCtxForIntraInterface (n.ctxFor lan (lan n.pIface).hdrL2Type),
    fun h on' hne => ?_⟩
  rw [LanToLanIface.heldCtx, ← sum_erase_add _ _ (mem_univ t), add_right_comm]
  have hsum : ∑ t' ∈ univ.erase t, ctxCell (on' t')
      (Function.update n.hdrProcCtxForInterInterface t h t') (n.ctxFor lan t') =
      ∑ t' ∈ univ.erase t,
        ctxCell (on t') (n.hdrProcCtxForInterInterface t') (n.ctxFor lan t') := by
    refine sum_congr rfl fun t' ht' => ?_
    rw [Function.update_of_ne (ne_of_mem_erase ht'), propext (hne t' (ne_of_mem_erase ht'))]
  show ∑ t' ∈ univ.erase t, ctxCell (on' t')
      (Function.update n.hdrProcCtxForInterInterface t h t') (n.ctxFor lan t') + _ +
    ctxCell (on' t) (Function.update n.hdrProcCtxForInterInterface t h t) (n.ctxFor lan t) = _
  rw [hsum, Function.update_self]
  rfl

/-- Clients without rules for an L2 type do not name its context. -/
lemma held_update_ctx {x : ClientInfo} (hx : ∀ ip, x.interIfaceRtRuleHdl t ip = []) (h : ℕ) :
    x.held lan { n with
        hdrProcCtxForInterInterface := Function.update n.hdrProcCtxForInterInterface t h } =
      x.held lan n := by
  rw [ClientInfo.held, ClientInfo.held]
  congr 1
  refine Finset.sum_congr rfl fun t' _ => ?_
  rcases eq_or_ne t' t with rfl | hne
  · simp [ClientInfo.heldInter, hx]
  · have hrule : LanToLanIface.interRtRule lan { n with
        hdrProcCtxForInterInterface := Function.update n.hdrProcCtxForInterInterface t h }
        x.macAddr t' = n.interRtRule lan x.macAddr t' := by
      funext ip i
      simp [LanToLanIface.interRtRule, Function.update_of_ne hne]
    simp only [ClientInfo.heldInter, hrule]

/-- **`add_hdr_proc_ctx`** behind `increment_ref_cnt_peer_l2_hdr_type`: afterwards there is a context for
the L2 type. -/
lemma Filled.addHdrProcCtx (H : Filled lan F s) (ha : a ∈ s.iface)
    (hnew : (s.node a).refCntPeerL2HdrType t = 1 →
      ¬ F.ctx a t ∧ ∀ c ∈ (s.node a).clientInfo, ¬ F.rt a c t)
    (hold : (s.node a).refCntPeerL2HdrType t ≠ 1 → F.ctx a t) :
    Filled lan (F.setCtx a (fun t' => F.ctx a t' ∨ t' = t) (F.ctxIntra a))
        (s.addHdrProcCtx lan a t) ∧ (s.addHdrProcCtx lan a t).skel = s.skel := by
  rw [LanToLan.addHdrProcCtx]
  split_ifs with h
  · obtain ⟨hoff, hrt⟩ := hnew h
    set r := ethBridgeAddHdrProcCtx lan (s.node a).pIface t s.ctx with hr
    set ctx := Function.update (s.node a).hdrProcCtxForInterInterface t r.1 with hctx
    refine H.ofCtx ha (n := { s.node a with hdrProcCtxForInterInterface := ctx }) rfl rfl
      (fun c hc => held_update_ctx ((H.rt a ha c hc).noInter t (hrt c hc)) r.1) fun G hG => ?_
    obtain ⟨G', hG'⟩ := exists_frame_heldCtx lan (s.node a) (F.ctx a) (F.ctxIntra a) t
    have hbefore := hG' ((s.node a).hdrProcCtxForInterInterface t) (F.ctx a) fun _ _ => Iff.rfl
    have hself : ({ s.node a with hdrProcCtxForInterInterface :=
        (Function.update (s.node a).hdrProcCtxForInterInterface t
          ((s.node a).hdrProcCtxForInterInterface t)) } : LanToLanIface) = s.node a := by
      rw [Function.update_eq_self]
    rw [hself, ctxCell_neg hoff, add_zero] at hbefore
    rw [hbefore] at hG
    have hafter := hG' r.1 (fun t' => F.ctx a t' ∨ t' = t) fun t' ht' => by simp [ht']
    rw [ctxCell_pos (Or.inr rfl)] at hafter
    rw [hafter, ← add_assoc]
    exact hG.install
  · refine ⟨H.congr ⟨fun _ _ _ _ _ _ => Iff.rfl, fun _ _ _ _ => Iff.rfl,
      fun _ _ _ _ _ => Iff.rfl, fun _ _ _ _ => Iff.rfl, fun b _ t' => ?_, fun b _ => ?_⟩, rfl⟩
    · show _ ↔ Function.update F.ctx a _ b t'
      rcases eq_or_ne b a with rfl | hb
      · rw [Function.update_self]
        exact ⟨Or.inl, fun h' => h'.elim id fun heq => heq ▸ hold h⟩
      · rw [Function.update_of_ne hb]
    · show _ ↔ Function.update F.ctxIntra a _ b
      rw [Function.update_eq_self]

/-- **`del_hdr_proc_ctx`**: afterwards there is a context for the L2 type if it is still referred to. -/
lemma Filled.delHdrProcCtx (H : Filled lan F s) (ha : a ∈ s.iface) (hon : F.ctx a t) :
    Filled lan (F.setCtx a
        (fun t' => F.ctx a t' ∧ (t' = t → (s.node a).refCntPeerL2HdrType t ≠ 0)) (F.ctxIntra a))
        (s.delHdrProcCtx a t) ∧ (s.delHdrProcCtx a t).skel = s.skel := by
  rw [LanToLan.delHdrProcCtx]
  split_ifs with h
  · refine H.ofCtx ha (n := s.node a) (by rw [Function.update_eq_self]) rfl (fun _ _ => rfl)
      fun G hG => ?_
    obtain ⟨G', hG'⟩ := exists_frame_heldCtx lan (s.node a) (F.ctx a) (F.ctxIntra a) t
    have hself : ({ s.node a with hdrProcCtxForInterInterface :=
        (Function.update (s.node a).hdrProcCtxForInterInterface t
          ((s.node a).hdrProcCtxForInterInterface t)) } : LanToLanIface) = s.node a := by
      rw [Function.update_eq_self]
    have hbefore := hG' ((s.node a).hdrProcCtxForInterInterface t) (F.ctx a) fun _ _ => Iff.rfl
    have hafter := hG' ((s.node a).hdrProcCtxForInterInterface t)
      (fun t' => F.ctx a t' ∧ (t' = t → (s.node a).refCntPeerL2HdrType t ≠ 0))
      fun t' ht' => by simp [ht']
    rw [hself, ctxCell_pos hon] at hbefore
    rw [hself, ctxCell_neg (by simp [h]), add_zero] at hafter
    rw [hbefore, ← add_assoc] at hG
    rw [hafter]
    exact hG.remove
  · refine ⟨H.congr ⟨fun _ _ _ _ _ _ => Iff.rfl, fun _ _ _ _ => Iff.rfl,
      fun _ _ _ _ _ => Iff.rfl, fun _ _ _ _ => Iff.rfl, fun b _ t' => ?_, fun b _ => ?_⟩, rfl⟩
    · show _ ↔ Function.update F.ctx a _ b t'
      rcases eq_or_ne b a with rfl | hb
      · rw [Function.update_self]
        exact ⟨fun h' => ⟨h', fun _ => h⟩, And.left⟩
      · rw [Function.update_of_ne hb]
    · show _ ↔ Function.update F.ctxIntra a _ b
      rw [Function.update_eq_self]

end Ctx

end LanToLan

end Ipacm
