import OcnDevice.Ipacm.Netlink.Independent

/-!
# Routes that are added and deleted

For an IPv6 route of the kernel, the event for `RTM_DELROUTE` should tell the same as that for
`RTM_NEWROUTE`, with a mask of which as many bits are set as the route's prefix is long.  Each
branch fills the mask in a loop of its own (`maskLoop`): `mask_v6` writes nothing for a length that
is not a multiple of four, the words are turned round behind the loop although they are in the order
of the host, and the loop of `RTM_DELROUTE` writes the rest of the length to the first word.

So its last word is written only for a route to a host (`delMask_last`), and for such a route all is
as it should be (`route_mirrored_iff`).  What a message tells is in what it is decoded to
(`Tells.told`): a fold over its attributes, that keeps what an attribute has told
(`foldl_attr_of_mem`).
-/

namespace Ipacm.Netlink

/-! ## Statement -/

/-- An IPv6 route of the kernel: where it leads, the length of its prefix, and the interface. -/
structure Route where
  dst : ℕ → UInt8
  dstLen : ℕ
  oif : ℕ

/-- Attributes tell a route: its destination, and the interface unless this is zero. -/
structure Shows (m : ℕ → UInt8) (r : Route) (os : List ℕ) : Prop where
  room : ∀ o ∈ os, 4 + Rtm.newroute.attrSize afInet6 (rtattr m o).type ≤ rta.length m o
  hasDst : ∃ o ∈ os, (rtattr m o).type = 1
  dst : ∀ o ∈ os, (rtattr m o).type = 1 → ∀ i < 16, (rtattr m o).data i = r.dst i
  hasOif : (∃ o ∈ os, (rtattr m o).type = 4) ∨ r.oif = 0
  oif : ∀ o ∈ os, (rtattr m o).type = 4 → u32 (rtattr m o).data 0 = r.oif

/-- **A message tells a route** in its header and its attributes. -/
structure Tells (t : Rtm) (w : List UInt8) (r : Route) : Prop where
  framed : Framed w
  fits : w.length ≤ ipaNlMsgMaxLen
  type : rtm w = some t
  family : (self w 16).toNat = afInet6
  dstLen : (self w 17).toNat = r.dstLen
  -- `RT_TABLE_MAIN`, `RTPROT_KERNEL` and `RTN_UNICAST`
  table : (self w 20).toNat = 254
  protocol : (self w 21).toNat = 2
  unicast : (self w 23).toNat = 1
  attrs : ∃ os, rta.Tiles (self w) 28 w.length os ∧ Shows (self w) r os

/-- All words of a mask are written, and of their bits so many are set, from the highest on. -/
def Leading (n : ℕ) (mask : Fin 4 → Option UInt32) : Prop :=
  ∀ k, ∃ w, mask k = some w ∧ ∀ j < 32, w.toNat.testBit (31 - j) = decide (32 * (k : ℕ) + j < n)

/-- **The deletion mirrors the addition**: the events for the destination, each message in a
datagram of its own, tell the same, and what they should. -/
def Mirrored (b : Build) (r : Route) (add del : List UInt8) (behind behind' : ℕ → UInt8) : Prop :=
  ∃ a d evs, posted b behind [add] = some (.addr .routeAdd a :: evs) ∧
    posted b behind' [del] = some [.addr .routeDel d] ∧
    a.ifIndex = r.oif ∧ a.ipv6Addr = (SockaddrStorage.mk afInet6 r.dst).words ∧ a.iptype = .v6 ∧
    d.ifIndex = a.ifIndex ∧ d.iptype = a.iptype ∧ d.ipv6Addr = a.ipv6Addr ∧
    d.ipv6AddrMask = a.ipv6AddrMask ∧ Leading r.dstLen a.ipv6AddrMask

/-! ## The masks -/

section Masks

variable {word : ℕ → ℕ} {mask : ℕ → Option UInt32} {r : ℕ × (ℕ → Option UInt32)} {k n : ℕ}

/-- The loop, pass by pass. -/
lemma maskLoop_eq (word : ℕ → ℕ) (n : ℕ) (k : Fin 4) : maskLoop word n k =
    ((maskPass word (maskPass word (maskPass word (maskPass word (n, fun _ => none) 0) 1) 2) 3).2
      k).map ntohl := rfl

/-- A mask of all bits. -/
lemma maskLoop_full (word : ℕ → ℕ) : maskLoop word 128 = fun _ => some 0xffffffff := by
  funext k
  fin_cases k <;> rfl

lemma leading_full : Leading 128 fun _ => some 0xffffffff := by
  intro k
  refine ⟨0xffffffff, rfl, fun j hj => ?_⟩
  rw [show (0xffffffff : UInt32).toNat = 2 ^ 32 - 1 from rfl, Nat.testBit_two_pow_sub_one,
    decide_eq_true (by omega), decide_eq_true (by omega)]

lemma maskPass_len (word : ℕ → ℕ) (r : ℕ × (ℕ → Option UInt32)) (k : ℕ) :
    (maskPass word r k).1 = r.1 - 32 := by
  rw [maskPass]
  split_ifs with h
  · rfl
  · show 0 = _
    omega

lemma writeMask_ne {j : ℕ} (h : j ≠ k) (i : ℕ) : writeMask mask k i j = mask j := by
  rw [writeMask]
  cases maskV6 i with
  | none => rfl
  | some w => exact Function.update_of_ne h _ _

/-- The last word is not written before the last pass, nor for the rest of the length. -/
lemma maskPass_last (h : k ≠ 3 ∨ r.1 < 32) : (maskPass (fun _ => 0) r k).2 3 = r.2 3 := by
  rw [maskPass]
  split_ifs with hr
  · show writeMask r.2 k 32 3 = r.2 3
    exact writeMask_ne (h.resolve_right (by omega)).symm _
  · exact writeMask_ne (by decide) _

/-- **The last word of the mask** of a deleted route is written only for a full one. -/
lemma delMask_last (h : n < 128) : maskLoop (fun _ => 0) n 3 = none := by
  rw [maskLoop_eq]
  show Option.map ntohl ((maskPass (fun _ => 0) _ 3).2 3) = none
  rw [maskPass_last (.inr ?_), maskPass_last (.inl (by omega)), maskPass_last (.inl (by omega)),
    maskPass_last (.inl (by omega))]
  · rfl
  · rw [maskPass_len, maskPass_len, maskPass_len]
    omega

end Masks

/-! ## What a message tells -/

section Told

variable {b : Build} {t : Rtm} {w : List UInt8} {r : Route} {os : List ℕ} {behind : ℕ → UInt8}
  {as : List Rtattr} {i : RouteInfo}

/-- What one attribute tells is in the fold, if the attributes keep it. -/
lemma foldl_attr_of_mem {P : RouteInfo → Prop} {a : Rtattr} (ha : a ∈ as)
    (hset : ∀ i : RouteInfo, P (i.attr a))
    (hkeep : ∀ i, P i → ∀ x ∈ as, P (i.attr x)) :
    P (as.foldl RouteInfo.attr i) := by
  induction as generalizing i with
  | nil => exact absurd ha List.not_mem_nil
  | cons x as ih =>
      rw [List.foldl_cons]
      have hrest : ∀ i, P i → ∀ y ∈ as, P (i.attr y) :=
        fun i hi y hy => hkeep i hi y (List.mem_cons_of_mem _ hy)
      rcases List.mem_cons.mp ha with rfl | ha
      · exact List.foldlRecOn as _ (hset i) hrest
      · exact ih ha hrest

/-- What is decoded tells a route. -/
structure Told (r : Route) (i : RouteInfo) : Prop where
  kernel : i.Kernel
  dstLen : i.rtmDstLen = r.dstLen
  hasDst : i.hasDst = true
  dst : i.dstAddr.words = (SockaddrStorage.mk afInet6 r.dst).words
  oif : i.oifIndex = r.oif

/-- What the attributes keep of the header. -/
def RouteInfo.header (i : RouteInfo) : List ℕ :=
  [i.rtmFamily, i.rtmType, i.rtmProtocol, i.rtmTable, i.rtmDstLen]

lemma RouteInfo.attr_header (i : RouteInfo) (a : Rtattr) : (i.attr a).header = i.header := by
  rw [RouteInfo.attr]
  split_ifs <;> rfl

lemma foldl_header (as : List Rtattr) (i : RouteInfo) :
    (as.foldl RouteInfo.attr i).header = i.header := by
  induction as generalizing i with
  | nil => rfl
  | cons a as ih => rw [List.foldl_cons, ih, i.attr_header]

/-- The header of a route that a message tells. -/
def Route.header (r : Route) : List ℕ := [afInet6, 1, 2, 254, r.dstLen]

/-- A route with such a header is one of the kernel. -/
lemma kernel_of_header (h : i.header = r.header) : i.Kernel ∧ i.rtmDstLen = r.dstLen := by
  simp only [RouteInfo.header, Route.header, List.cons.injEq, and_true] at h
  obtain ⟨hfamily, htype, hprotocol, htable, hlen⟩ := h
  exact ⟨⟨hfamily, htype, hprotocol, htable⟩, hlen⟩

/-- A route of the kernel is not one that was added at boot. -/
lemma RouteInfo.Kernel.not_booted (h : i.Kernel) : ¬ i.Booted := by
  intro hb
  have hprotocol := h.2.2.1
  have hbooted := hb.2.1
  omega

/-- The destination is told by one attribute at least, and by all in the same way. -/
lemma Shows.told_dst (hos : Shows (self w) r os) : (routeOf w os).hasDst = true ∧
    (routeOf w os).dstAddr.words = (SockaddrStorage.mk afInet6 r.dst).words := by
  obtain ⟨o, ho, hone⟩ := hos.hasDst
  have hwords : ∀ p ∈ os, (rtattr (self w) p).type = 1 → ∀ fam,
      (SockaddrStorage.mk fam (rtattr (self w) p).data).words =
        (SockaddrStorage.mk afInet6 r.dst).words := fun p hp hp1 fam =>
    SockaddrStorage.Agree.words (a := ⟨afInet6, _⟩) ⟨rfl, hos.dst p hp hp1⟩
  refine foldl_attr_of_mem (P := fun i => i.hasDst = true ∧ i.dstAddr.words = _)
    (List.mem_map_of_mem ho) (fun i => ?_) fun i hi x hx => ?_
  · rw [RouteInfo.attr, if_pos hone]
    exact ⟨rfl, hwords o ho hone _⟩
  · obtain ⟨p, hp, rfl⟩ := List.mem_map.mp hx
    rw [RouteInfo.attr]
    split_ifs with h1 h4 h5
    · exact ⟨rfl, hwords p hp h1 _⟩
    all_goals exact hi

/-- The interface is told by the attributes for it, which agree, or stays zero. -/
lemma Shows.told_oif (hos : Shows (self w) r os) : (routeOf w os).oifIndex = r.oif := by
  have hkeep : ∀ i : RouteInfo, i.oifIndex = r.oif → ∀ x ∈ os.map (rtattr (self w)),
      (i.attr x).oifIndex = r.oif := by
    intro i hi x hx
    obtain ⟨p, hp, rfl⟩ := List.mem_map.mp hx
    rw [RouteInfo.attr]
    split_ifs with h1 h4 h5
    · exact hi
    · exact hos.oif p hp h4
    all_goals exact hi
  rcases hos.hasOif with ⟨o, ho, hfour⟩ | hzero
  · refine foldl_attr_of_mem (P := fun i => i.oifIndex = r.oif) (List.mem_map_of_mem ho)
      (fun i => ?_) hkeep
    rw [RouteInfo.attr, if_neg (by rw [hfour]; decide), if_pos hfour]
    exact hos.oif o ho hfour
  · exact List.foldlRecOn (motive := fun i : RouteInfo => i.oifIndex = r.oif) _ _ hzero.symm hkeep

/-- **A message is decoded to the route that it tells.** -/
lemma Tells.told (h : Tells t w r) (hos : Shows (self w) r os) : Told r (routeOf w os) := by
  have hheader : (routeOf w os).header = r.header := by
    rw [routeOf, foldl_header]
    simp only [RouteInfo.header, Route.header, h.family, h.unicast, h.protocol, h.table, h.dstLen]
  obtain ⟨hkernel, hlen⟩ := kernel_of_header hheader
  exact ⟨hkernel, hlen, hos.told_dst.1, hos.told_dst.2, hos.told_oif⟩

/-- The event for a destination that is added. -/
lemma Told.newroute (h : Told r i) : ∃ evs, (newrouteEvents i 0).1 =
    Event.addr .routeAdd
      { iptype := .v6, ifIndex := r.oif, ipv6Addr := (SockaddrStorage.mk afInet6 r.dst).words
        ipv6AddrMask := maskLoop id r.dstLen } :: evs := by
  simp only [newrouteEvents, if_neg h.kernel.not_booted, if_pos h.kernel, h.hasDst, if_true, h.dst,
    h.dstLen, h.oif, List.nil_append, List.cons_append]
  exact ⟨_, rfl⟩

/-- The event for a destination that is deleted. -/
lemma Told.delroute (h : Told r i) : (delrouteEvents i 0).1 =
    [Event.addr .routeDel
      { iptype := .v6, ifIndex := r.oif, ipv6Addr := (SockaddrStorage.mk afInet6 r.dst).words
        ipv6AddrMask := maskLoop (fun _ => 0) r.dstLen }] := by
  simp only [delrouteEvents, if_neg h.kernel.not_booted, h.kernel, h.hasDst, and_self, if_true,
    h.dst, h.dstLen, h.oif, List.nil_append]

/-- What is decoded from a message in a datagram of its own. -/
lemma Tells.decoded (h : Tells t w r) (hq : Quiet behind) :
    ∃ i j, decodeRtmRoute (buffer (w ++ List.flatten []) behind)
      (w ++ List.flatten []).length {} = some i ∧ i.Agree afInet6 j ∧ Told r j := by
  obtain ⟨os, htiles, hshows⟩ := h.attrs
  have hroom := hshows.room
  rw [← h.family] at hroom
  have hshort : (w ++ List.flatten []).length ≤ ipaNlMsgMaxLen := by
    rw [List.flatten_nil, List.append_nil]
    exact h.fits
  have hbehind : Behind w [] behind := ⟨fun r hr => absurd hr List.not_mem_nil, hshort, hq⟩
  obtain ⟨i, hi, hagree⟩ := route_first htiles hroom hbehind
  rw [h.family] at hagree
  exact ⟨i, _, hi, hagree, h.told hshows⟩

/-- **The events of a message that adds a route.** -/
lemma posted_newroute (h : Tells .newroute w r) (hq : Quiet behind) :
    ∃ evs, posted b behind [w] = some (.addr .routeAdd
      { iptype := .v6, ifIndex := r.oif, ipv6Addr := (SockaddrStorage.mk afInet6 r.dst).words
        ipv6AddrMask := maskLoop id r.dstLen } :: evs) := by
  obtain ⟨i, j, hi, hagree, htold⟩ := h.decoded hq
  obtain ⟨evs, hevs⟩ := htold.newroute
  refine ⟨evs, ?_⟩
  rw [← hevs, ← (hagree.events 0).1]
  exact posted_first h.framed h.type (fun r hr => absurd hr List.not_mem_nil)
    (by rw [decode, hi, Option.map_some])

/-- **The event of a message that deletes a route.** -/
lemma posted_delroute (h : Tells .delroute w r) (hq : Quiet behind) :
    posted b behind [w] = some [.addr .routeDel
      { iptype := .v6, ifIndex := r.oif, ipv6Addr := (SockaddrStorage.mk afInet6 r.dst).words
        ipv6AddrMask := maskLoop (fun _ => 0) r.dstLen }] := by
  obtain ⟨i, j, hi, hagree, htold⟩ := h.decoded hq
  rw [← htold.delroute, ← (hagree.events 0).2]
  exact posted_first h.framed h.type (fun r hr => absurd hr List.not_mem_nil)
    (by rw [decode, hi, Option.map_some])

/-- The mask of a route that is deleted, whatever is behind the message. -/
lemma delroute_mask {d : DataAddr} (h : Tells .delroute w r)
    (hposted : posted b behind [w] = some [.addr .routeDel d]) :
    d.ipv6AddrMask = maskLoop (fun _ => 0) r.dstLen := by
  obtain ⟨os, htiles, -⟩ := h.attrs
  have h28 := htiles.le
  cases hdec : decodeRtmRoute (buffer (w ++ List.flatten []) behind)
      (w ++ List.flatten []).length {} with
  | none =>
      rw [posted_cons h.framed h.type, decode, hdec] at hposted
      cases hposted
  | some i =>
      -- the header is that of the message, and no attribute changes it
      have hheader : i.header = r.header := by
        obtain ⟨as, -, rfl⟩ := Option.map_eq_some_iff.mp hdec
        rw [foldl_header]
        simp only [RouteInfo.header, Route.header]
        rw [(body_first h28).1 (by omega), (body_first h28).1 (by omega),
          (body_first h28).1 (by omega), (body_first h28).1 (by omega),
          (body_first h28).1 (by omega), h.family, h.unicast, h.protocol, h.table, h.dstLen]
      obtain ⟨hkernel, hlen⟩ := kernel_of_header hheader
      have hevs : posted b behind [w] = some (delrouteEvents i 0).1 :=
        posted_first h.framed h.type (fun r hr => absurd hr List.not_mem_nil)
          (by rw [decode, hdec, Option.map_some])
      rw [hposted] at hevs
      simp only [delrouteEvents, if_neg hkernel.not_booted, hkernel, true_and,
        List.nil_append, Option.some.injEq] at hevs
      split_ifs at hevs with hdst
      obtain ⟨hev, -⟩ := List.cons.inj hevs
      cases hev
      rw [hlen]

end Told

/-! ## A deletion mirrors an addition -/

/-- No deletion mirrors an addition but that of a route to a host. -/
lemma not_mirrored {b : Build} {r : Route} {add del : List UInt8} {behind behind' : ℕ → UInt8}
    (hdel : Tells .delroute del r) (hlen : r.dstLen < 128) :
    ¬ Mirrored b r add del behind behind' := by
  rintro ⟨a, d, evs, -, hposted, -, -, -, -, -, -, hmask, hleading⟩
  obtain ⟨w, hw, -⟩ := hleading 3
  rw [← hmask, delroute_mask hdel hposted, delMask_last hlen] at hw
  cases hw

/-- **The deletion of a route mirrors its addition only if the route is one to a host**, and then it
does if nothing behind the messages is taken for an attribute. -/
theorem route_mirrored_iff (b : Build) (r : Route) (add del : List UInt8)
    (behind behind' : ℕ → UInt8) (hadd : Tells .newroute add r) (hdel : Tells .delroute del r)
    (hlen : r.dstLen ≤ 128) :
    (Mirrored b r add del behind behind' → r.dstLen = 128) ∧
      (r.dstLen = 128 → Quiet behind → Quiet behind' → Mirrored b r add del behind behind') := by
  refine ⟨fun h => ?_, fun hfull hq hq' => ?_⟩
  · by_contra hne
    exact not_mirrored hdel (by omega) h
  · obtain ⟨evs, hevs⟩ := posted_newroute (b := b) hadd hq
    refine ⟨_, _, evs, hevs, posted_delroute hdel hq', rfl, rfl, rfl, rfl, rfl, rfl, ?_, ?_⟩
    · simp only [hfull, maskLoop_full]
    · simp only [hfull, maskLoop_full]
      exact leading_full

/-- The address 2001:db8::1. -/
def documentation : List UInt8 := [32, 1, 13, 184] ++ List.replicate 11 0 ++ [1]

/-- The headers of a message for a route of the kernel, up to its destination. -/
def routeHead (type dstLen : UInt8) : List UInt8 :=
  [56, 0, 0, 0, type, 0, 0, 0] ++ List.replicate 8 0 ++
    [10, dstLen, 0, 0, 254, 2, 0, 1, 0, 0, 0, 0] ++ [20, 0, 1, 0]

/-- A message for a route to the address, with the length of a prefix, by the interface 3. -/
def routeMessage (type dstLen : UInt8) : List UInt8 :=
  routeHead type dstLen ++ documentation ++ [8, 0, 4, 0, 3, 0, 0, 0]

section

variable (type dstLen : UInt8)

/-- The attribute for the destination. -/
lemma routeMessage_dst : rta.length (self (routeMessage type dstLen)) 28 = 20 ∧
    (rtattr (self (routeMessage type dstLen)) 28).type = 1 ∧
    rta.next (self (routeMessage type dstLen)) 28 = 48 := by
  have hlength : rta.length (self (routeMessage type dstLen)) 28 = 20 := by
    show (20 : UInt8).toNat + (0 : UInt8).toNat * 256 = 20
    decide
  refine ⟨hlength, ?_, ?_⟩
  · show (1 : UInt8).toNat + (0 : UInt8).toNat * 256 = 1
    decide
  · rw [Framing.next, hlength]
    decide

/-- The attribute for the interface. -/
lemma routeMessage_oif : rta.length (self (routeMessage type dstLen)) 48 = 8 ∧
    (rtattr (self (routeMessage type dstLen)) 48).type = 4 ∧
    rta.next (self (routeMessage type dstLen)) 48 = 56 := by
  have hlength : rta.length (self (routeMessage type dstLen)) 48 = 8 := by
    show (8 : UInt8).toNat + (0 : UInt8).toNat * 256 = 8
    decide
  refine ⟨hlength, ?_, ?_⟩
  · show (4 : UInt8).toNat + (0 : UInt8).toNat * 256 = 4
    decide
  · rw [Framing.next, hlength]
    decide

lemma routeMessage_tiles : rta.Tiles (self (routeMessage type dstLen)) 28 56 [28, 48] := by
  obtain ⟨hdst, -, hdstNext⟩ := routeMessage_dst type dstLen
  obtain ⟨hoif, -, hoifNext⟩ := routeMessage_oif type dstLen
  refine .cons (hdst ▸ by decide) (by omega) ?_
  rw [hdstNext]
  refine .cons (hoif ▸ by decide) (by omega) ?_
  rw [hoifNext]
  exact .nil _

lemma routeMessage_shows : Shows (self (routeMessage type dstLen))
    ⟨fun i => documentation.getD i 0, dstLen.toNat, 3⟩ [28, 48] := by
  obtain ⟨hdst, hone, -⟩ := routeMessage_dst type dstLen
  obtain ⟨hoif, hfour, -⟩ := routeMessage_oif type dstLen
  refine ⟨?_, ⟨28, by simp, hone⟩, ?_, .inl ⟨48, by simp, hfour⟩, ?_⟩
  · intro o ho
    rcases List.mem_pair.mp ho with rfl | rfl
    · rw [hdst, hone]
      decide
    · rw [hoif, hfour]
      decide
  · intro o ho htype i hi
    rcases List.mem_pair.mp ho with rfl | rfl
    · have hmid := buffer_middle (routeHead type dstLen) [8, 0, 4, 0, 3, 0, 0, 0] (fun _ => 0)
        (show i < documentation.length from hi)
      rw [show (routeHead type dstLen).length = 28 + 4 from rfl] at hmid
      exact hmid.trans (if_pos hi)
    · rw [hfour] at htype
      cases htype
  · intro o ho htype
    rcases List.mem_pair.mp ho with rfl | rfl
    · rw [hone] at htype
      cases htype
    · show (3 : UInt8).toNat + (0 : UInt8).toNat * 256 +
        ((0 : UInt8).toNat + (0 : UInt8).toNat * 256) * 65536 = 3
      decide

end

/-- What such a message tells. -/
lemma routeMessage_tells {t : Rtm} {type : UInt8} (dstLen : UInt8)
    (ht : rtm (routeMessage type dstLen) = some t) : Tells t (routeMessage type dstLen)
      ⟨fun i => documentation.getD i 0, dstLen.toNat, 3⟩ := by
  have hlength : (routeMessage type dstLen).length = 56 := rfl
  have hhead : nlmsg.length (self (routeMessage type dstLen)) 0 = 56 := by
    show (56 : UInt8).toNat + (0 : UInt8).toNat * 256 +
      ((0 : UInt8).toNat + (0 : UInt8).toNat * 256) * 65536 = 56
    decide
  have htable : (self (routeMessage type dstLen) 20).toNat = 254 := by
    show (254 : UInt8).toNat = 254
    decide
  exact ⟨⟨by omega, by rw [hhead]; rfl⟩, by rw [hlength]; decide, ht, rfl, rfl, htable, rfl, rfl,
    [28, 48], routeMessage_tiles type dstLen, routeMessage_shows type dstLen⟩

lemma quiet_zero : Quiet fun _ => 0 := fun n _ hn => absurd hn.2.1 (by decide)

/-- A route to a host. -/
theorem route_mirrored_host : Mirrored ⟨true, fun _ => "wlan0"⟩
    ⟨fun i => documentation.getD i 0, 128, 3⟩ (routeMessage 24 128) (routeMessage 25 128)
    (fun _ => 0) fun _ => 0 :=
  (route_mirrored_iff _ _ _ _ _ _ (routeMessage_tells 128 (by decide))
    (routeMessage_tells 128 (by decide)) (by decide)).2 rfl quiet_zero quiet_zero

/-- **The deletion of a route to a network does not tell its mask**: of the prefix of 64 bits, the
first word is overwritten and the last words are not written. -/
theorem route_mirrored_broken : ¬ ∀ (b : Build) (r : Route) (add del : List UInt8)
    (behind behind' : ℕ → UInt8), Tells .newroute add r → Tells .delroute del r →
      r.dstLen ≤ 128 → Quiet behind → Quiet behind' → Mirrored b r add del behind behind' := by
  intro h
  have hadd : Tells .newroute (routeMessage 24 64) ⟨fun i => documentation.getD i 0, 64, 3⟩ :=
    routeMessage_tells 64 (by decide)
  have hdel : Tells .delroute (routeMessage 25 64) ⟨fun i => documentation.getD i 0, 64, 3⟩ :=
    routeMessage_tells 64 (by decide)
  exact not_mirrored hdel (by decide) (h ⟨true, fun _ => "wlan0"⟩ _ _ _ _ _ hadd hdel (by decide)
    quiet_zero quiet_zero)

end Ipacm.Netlink
