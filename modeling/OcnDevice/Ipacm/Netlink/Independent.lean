import OcnDevice.Ipacm.Netlink.Model

/-!
# Messages in one datagram

The events for messages in one datagram should be those for each of them in a datagram of its own.
They are when no message behind the first is of a type that is decoded (`independent`): such a
message would be decoded from the header and the attributes of the first.

The decoder of the first message goes on over what is behind it, as its length is that of the
datagram; but as an attribute, a message has the type zero, which no decoder looks at
(`rest_tiles`).
-/

namespace Ipacm.Netlink

/-! ## Well-formed messages -/

/-- `IPA_NL_MSG_MAX_LEN`. -/
def ipaNlMsgMaxLen : ℕ := 2048

/-- A message by itself. -/
def self (w : List UInt8) : ℕ → UInt8 := buffer w fun _ => 0

/-- The type of a message, if it is decoded. -/
def rtm (w : List UInt8) : Option Rtm := Rtm.ofType (nlmsgType (self w) 0)

/-- A message has a header, and is padded to a multiple of four bytes. -/
structure Framed (w : List UInt8) : Prop where
  header : 16 ≤ nlmsg.length (self w) 0
  padded : alignFour (nlmsg.length (self w) 0) = w.length

/-- The size of what is behind the header: `struct ifinfomsg`, `struct ifaddrmsg`, `struct rtmsg`
and `struct ndmsg`. -/
def Rtm.bodySize : Rtm → ℕ
  | newlink => 16
  | dellink => 16
  | newaddr => 8
  | _ => 12

/-- The size of an address of a family. -/
def width (family : ℕ) : ℕ := if family = afInet6 then 16 else 4

/-- The bytes that an attribute has at least, for a message of a family. -/
def Rtm.attrSize (family : ℕ) : Rtm → ℕ → ℕ
  | newaddr, 1 => width family
  | newroute, 1 => width family
  | newroute, 4 => 4
  | newroute, 5 => width family
  | delroute, 1 => width family
  | delroute, 4 => 4
  | delroute, 5 => width family
  | newneigh, 1 => width family
  | newneigh, 2 => 6
  | delneigh, 1 => width family
  | delneigh, 2 => 6
  | _, _ => 0

/-- **A message is well-formed**: it is framed; and if it is of a type that is decoded, attributes
of their sizes tile it behind the header and the body. -/
structure WellFormed (w : List UInt8) : Prop where
  framed : Framed w
  attrs : ∀ t, rtm w = some t → ∃ os, rta.Tiles (self w) (16 + t.bodySize) w.length os ∧
    ∀ o ∈ os, 4 + t.attrSize (self w 16).toNat (rtattr (self w) o).type ≤ rta.length (self w) o

/-- What is behind a datagram does not look like an attribute that fits into the body of a
message. -/
def Quiet (behind : ℕ → UInt8) : Prop := ∀ n ≤ 12, ¬ rta.Ok behind 0 n

/-- **The messages are independent**: in one datagram they make the events that each of them makes
in its own. -/
def Independent (b : Build) (msgs : List (List UInt8)) : Prop :=
  ∀ behind behind', Quiet behind → Quiet behind' →
    ∃ evs, List.Forall₂ (fun w es => posted b behind' [w] = some es) msgs evs ∧
      posted b behind msgs = some evs.flatten

section Lemmas

variable {b : Build} {m m' behind behind' : ℕ → UInt8} {w : List UInt8} {pre post : List UInt8}
  {rest : List (List UInt8)} {o n : ℕ} {t : Rtm}

/-! ## Reading the buffer -/

lemma buffer_behind (w : List UInt8) (i : ℕ) : buffer w behind (w.length + i) = behind i := by
  rw [buffer, if_neg (by omega), Nat.add_sub_cancel_left]

/-- A message in a datagram. -/
lemma buffer_middle (pre post : List UInt8) (behind : ℕ → UInt8) {i : ℕ} (h : i < w.length) :
    buffer (pre ++ w ++ post) behind (pre.length + i) = self w i := by
  have hlen : pre.length + i < (pre ++ w ++ post).length := by
    simp only [List.length_append]
    omega
  rw [self, buffer, buffer, if_pos hlen, if_pos h, List.append_assoc,
    List.getD_append_right _ _ _ _ (by omega), Nat.add_sub_cancel_left, List.getD_append _ _ _ _ h]

lemma u16_congr {p : ℕ} (h : ∀ i < 2, m (o + i) = m' (p + i)) : u16 m o = u16 m' p := by
  have h0 := h 0 (by omega)
  have h1 := h 1 (by omega)
  simp only [add_zero] at h0
  rw [u16, u16, h0, h1]

lemma u32_congr {p : ℕ} (h : ∀ i < 4, m (o + i) = m' (p + i)) : u32 m o = u32 m' p := by
  rw [u32, u32, u16_congr fun i hi => h i (by omega),
    u16_congr (o := o + 2) (p := p + 2) fun i hi => ?_]
  rw [add_assoc, add_assoc]
  exact h (2 + i) (by omega)

/-- A word that is small is its lower half. -/
lemma u16_of_small (h : u32 m o < 65536) : u16 m o = u32 m o ∧ u16 m (o + 2) = 0 := by
  rw [u32] at h ⊢
  omega

/-- A message is as long as its header. -/
lemma Framed.length_le (hw : Framed w) : 16 ≤ w.length :=
  hw.header.trans (hw.padded ▸ le_alignFour _)

/-- The header of a message in a datagram. -/
lemma header_middle (pre post : List UInt8) (behind : ℕ → UInt8) (hw : Framed w) :
    nlmsg.length (buffer (pre ++ w ++ post) behind) pre.length = nlmsg.length (self w) 0 ∧
      nlmsgType (buffer (pre ++ w ++ post) behind) pre.length = nlmsgType (self w) 0 := by
  have hlen := hw.length_le
  constructor
  · refine u32_congr fun i hi => ?_
    rw [buffer_middle _ _ _ (by omega), zero_add]
  · refine u16_congr fun i hi => ?_
    rw [add_assoc, buffer_middle _ _ _ (by omega), zero_add]

/-- The loop finds a message in a datagram, and goes on behind it. -/
lemma framed_middle (pre post : List UInt8) (behind : ℕ → UInt8) (hw : Framed w) (n : ℕ) :
    nlmsg.Ok (buffer (pre ++ w ++ post) behind) pre.length (w.length + n) ∧
      alignFour (nlmsg.length (buffer (pre ++ w ++ post) behind) pre.length) = w.length ∧
      nlmsg.next (buffer (pre ++ w ++ post) behind) pre.length = (pre ++ w).length := by
  have hhead := (header_middle pre post behind hw).1
  have hfit := hw.padded
  have hle := le_alignFour (nlmsg.length (self w) 0)
  have h16 := hw.header
  have hpad : alignFour (nlmsg.length (buffer (pre ++ w ++ post) behind) pre.length) =
      w.length := by
    rw [hhead, hfit]
  refine ⟨⟨?_, ?_, ?_⟩, hpad, ?_⟩
  · show 16 ≤ _
    omega
  · show 16 ≤ _
    omega
  · omega
  · rw [Framing.next, hpad, List.length_append]

/-! ## What is behind the first message -/

/-- **Messages look like attributes of type zero.** -/
lemma rest_tiles (behind : ℕ → UInt8) (hrest : ∀ r ∈ rest, Framed r)
    (hlen : (pre ++ rest.flatten).length ≤ ipaNlMsgMaxLen) :
    ∃ os, rta.Tiles (buffer (pre ++ rest.flatten) behind) pre.length
        (pre ++ rest.flatten).length os ∧
      ∀ o ∈ os, (rtattr (buffer (pre ++ rest.flatten) behind) o).type = 0 := by
  induction rest generalizing pre with
  | nil => exact ⟨[], by simpa using .nil _, fun o ho => absurd ho List.not_mem_nil⟩
  | cons r rest ih =>
      obtain ⟨hr, hrest⟩ := List.forall_mem_cons.mp hrest
      have hassoc : pre ++ (r :: rest).flatten = pre ++ r ++ rest.flatten := by simp
      rw [hassoc] at hlen ⊢
      obtain ⟨os, htiles, htype⟩ := ih hrest hlen
      have hhead := (header_middle pre rest.flatten behind hr).1
      have hfit := hr.padded
      have hle := le_alignFour (nlmsg.length (self r) 0)
      simp only [List.length_append, ipaNlMsgMaxLen] at hlen
      -- the length of the message is that of the attribute
      have hsmall : u32 (buffer (pre ++ r ++ rest.flatten) behind) pre.length < 65536 := by
        refine lt_of_eq_of_lt hhead ?_
        omega
      obtain ⟨hlow, hhigh⟩ := u16_of_small hsmall
      have hlength : rta.length (buffer (pre ++ r ++ rest.flatten) behind) pre.length =
          nlmsg.length (self r) 0 := hlow.trans hhead
      have hnext : rta.next (buffer (pre ++ r ++ rest.flatten) behind) pre.length =
          (pre ++ r).length := by
        rw [Framing.next, hlength, hfit, List.length_append]
      refine ⟨pre.length :: os, .cons ?_ ?_ ?_, List.forall_mem_cons.mpr ⟨hhigh, htype⟩⟩
      · rw [hlength]
        exact le_trans (by decide) hr.header
      · rw [hnext]
        exact htiles.le
      · rwa [hnext]

/-- **Messages that are not decoded make no events.** -/
lemma decodeFrom_ignored (pre : List UInt8) (behind : ℕ → UInt8)
    (hrest : ∀ r ∈ rest, Framed r ∧ rtm r = none) (s : State) {fuel : ℕ}
    (hfuel : rest.flatten.length < fuel) :
    decodeFrom b (buffer (pre ++ rest.flatten) behind) fuel pre.length rest.flatten.length s =
      some [] := by
  induction rest generalizing pre fuel with
  | nil =>
      obtain ⟨fuel, rfl⟩ : ∃ k, fuel = k + 1 := Nat.exists_eq_succ_of_ne_zero (by omega)
      exact if_neg fun h => absurd h.1 (by decide)
  | cons r rest ih =>
      obtain ⟨⟨hr, hnone⟩, hrest⟩ := List.forall_mem_cons.mp hrest
      have hassoc : pre ++ (r :: rest).flatten = pre ++ r ++ rest.flatten := by simp
      have hlen : (r :: rest).flatten.length = r.length + rest.flatten.length := by simp
      rw [hassoc]
      rw [hlen] at hfuel ⊢
      have htype := (header_middle pre rest.flatten behind hr).2
      obtain ⟨hok, hpad, hnext⟩ := framed_middle pre rest.flatten behind hr rest.flatten.length
      have h16 := hr.length_le
      obtain ⟨fuel, rfl⟩ : ∃ k, fuel = k + 1 := Nat.exists_eq_succ_of_ne_zero (by omega)
      rw [decodeFrom, if_pos hok, htype, show Rtm.ofType (nlmsgType (self r) 0) = none from hnone]
      simp only [Option.bind_some, if_false, Bool.false_eq_true]
      rw [hpad, if_pos (by omega), Nat.add_sub_cancel_left, hnext, ih _ hrest (by omega)]
      rfl

/-! ## The attributes of the first message -/

/-- A buffer that begins with a message. -/
lemma buffer_first {i : ℕ} (h : i < w.length) : buffer (w ++ post) behind i = self w i := by
  have hmid := buffer_middle [] post behind h
  simpa using hmid

/-- The decoders visit the attributes of the first message, and then others that have the type
zero. -/
lemma rtattrs_first {os : List ℕ} (hos : rta.Tiles (self w) (16 + n) w.length os) (hn : n ≤ 12)
    (hrest : ∀ r ∈ rest, Framed r) (hlen : (w ++ rest.flatten).length ≤ ipaNlMsgMaxLen)
    (hq : Quiet behind) :
    ∃ zs : List Rtattr, (∀ z ∈ zs, z.type = 0) ∧
      rtattrs (buffer (w ++ rest.flatten) behind) (16 + n) ((w ++ rest.flatten).length - 16) =
        some (os.map (rtattr (buffer (w ++ rest.flatten) behind)) ++ zs) := by
  obtain ⟨zs, hzs, htype⟩ := rest_tiles behind hrest hlen
  have hown : rta.Tiles (buffer (w ++ rest.flatten) behind) (16 + n) w.length os :=
    hos.congr fun p _ hp => u16_congr fun i hi => buffer_first (by
      change p + 4 ≤ w.length at hp
      omega)
  have hend : ¬ rta.Ok (buffer (w ++ rest.flatten) behind) (w ++ rest.flatten).length n := by
    have hword : rta.length (buffer (w ++ rest.flatten) behind) (w ++ rest.flatten).length =
        rta.length behind 0 := u16_congr fun i _ => by rw [buffer_behind, zero_add]
    intro h
    refine hq n hn ⟨h.1, ?_, ?_⟩
    · rw [← hword]
      exact h.2.1
    · rw [← hword]
      exact h.2.2
  have hle := (hown.append hzs).le
  have hwalk := Framing.walk_tiles (hown.append hzs) hend
    (Nat.lt_succ_self _)
  rw [show (w ++ rest.flatten).length - (16 + n) + n = (w ++ rest.flatten).length - 16 by omega]
    at hwalk
  refine ⟨zs.map (rtattr (buffer (w ++ rest.flatten) behind)), ?_, ?_⟩
  · intro z hz
    obtain ⟨o, ho, rfl⟩ := List.mem_map.mp hz
    exact htype o ho
  · rw [rtattrs, hwalk, Option.map_some, List.map_append]

/-- Two attributes that are the same as far as a size tells. -/
def Rtattr.Agree (size : ℕ → ℕ) (a a' : Rtattr) : Prop :=
  a.type = a'.type ∧ ∀ i < size a.type, a.data i = a'.data i

/-- **The attributes of the first message are those of the message by itself.** -/
lemma attrs_agree {os : List ℕ} {size : ℕ → ℕ} (hos : rta.Tiles (self w) o w.length os)
    (hroom : ∀ p ∈ os, 4 + size (rtattr (self w) p).type ≤ rta.length (self w) p) :
    List.Forall₂ (Rtattr.Agree size) (os.map (rtattr (buffer (w ++ post) behind)))
      (os.map (rtattr (self w))) := by
  generalize hend : w.length = e at hos
  induction hos with
  | nil => exact .nil
  | @cons o e os hlen hle htiles ih =>
      obtain ⟨hfits, hroom⟩ := List.forall_mem_cons.mp hroom
      have hpad := le_alignFour (rta.length (self w) o)
      have hin := htiles.le
      have h4 : 4 ≤ rta.length (self w) o := hlen
      rw [Framing.next] at hle hin
      have htype : (rtattr (buffer (w ++ post) behind) o).type = (rtattr (self w) o).type :=
        u16_congr fun i hi => buffer_first (by omega)
      refine .cons ⟨htype, fun i hi => ?_⟩ (ih hroom hend)
      rw [htype] at hi
      exact buffer_first (by omega)

end Lemmas

/-! ## Decoding the same -/

section Agree

variable {fam n k : ℕ} {a a' : SockaddrStorage} {x x' : Rtattr}

/-- Two addresses of one family that have some bytes in common. -/
def SockaddrStorage.Agree (n : ℕ) (a a' : SockaddrStorage) : Prop :=
  a.ssFamily = a'.ssFamily ∧ ∀ i < n, a.data i = a'.data i

lemma SockaddrStorage.Agree.word (h : a.Agree n a') (hk : 4 * k + 4 ≤ n) :
    a.word k = a'.word k := by
  rw [SockaddrStorage.word, SockaddrStorage.word, h.2 _ (by omega), h.2 _ (by omega),
    h.2 _ (by omega), h.2 _ (by omega)]

lemma SockaddrStorage.Agree.words (h : a.Agree 16 a') : a.words = a'.words := by
  funext k
  rw [SockaddrStorage.words, SockaddrStorage.words, h.word (by omega)]

lemma four_le_width (fam : ℕ) : 4 ≤ width fam := by
  rw [width]
  split_ifs <;> omega

/-- Attributes of the type zero do nothing. -/
lemma foldl_zeros {ι : Type*} {f : ι → Rtattr → ι} {zs : List Rtattr} (hzs : ∀ z ∈ zs, z.type = 0)
    (hf : ∀ i z, z.type = 0 → f i z = i) (i : ι) : zs.foldl f i = i := by
  induction zs with
  | nil => rfl
  | cons z zs ih =>
      obtain ⟨hz, hzs⟩ := List.forall_mem_cons.mp hzs
      rw [List.foldl_cons, hf i z hz, ih hzs]

/-- **What is decoded agrees** if attributes that agree do the same to it. -/
lemma foldl_agree {ι : Type*} {f : ι → Rtattr → ι} {P : ι → ι → Prop} {size : ℕ → ℕ}
    {as as' zs : List Rtattr} {i i' : ι} (has : List.Forall₂ (Rtattr.Agree size) as as')
    (hzs : ∀ z ∈ zs, z.type = 0) (hf : ∀ i z, z.type = 0 → f i z = i)
    (hP : ∀ i i' x x', P i i' → x.Agree size x' → P (f i x) (f i' x')) (hi : P i i') :
    P ((as ++ zs).foldl f i) (as'.foldl f i') := by
  rw [List.foldl_append, foldl_zeros hzs hf]
  exact List.rel_foldl (fun i i' h x x' hx => hP i i' x x' h hx) hi has

/-- `ipa_nl_addr_info_t` of one family. -/
structure AddrInfo.Agree (fam : ℕ) (i i' : AddrInfo) : Prop where
  family : i.ifaFamily = fam ∧ i'.ifaFamily = fam
  index : i.ifaIndex = i'.ifaIndex
  addr : i.prefixAddr.Agree (width i.prefixAddr.ssFamily) i'.prefixAddr

lemma AddrInfo.Agree.attr {i i' : AddrInfo} (h : i.Agree fam i')
    (hx : x.Agree (Rtm.newaddr.attrSize fam) x') : (i.attr x).Agree fam (i'.attr x') := by
  unfold AddrInfo.attr
  rw [← hx.1]
  split_ifs with h1
  · refine ⟨h.family, h.index, ?_⟩
    have hsize := hx.2
    rw [h1] at hsize
    simp only [h.family.1, h.family.2]
    exact ⟨rfl, hsize⟩
  · exact h

lemma AddrInfo.Agree.event {i i' : AddrInfo} (h : i.Agree fam i') (name : ℕ → String) :
    newaddrEvent name i = newaddrEvent name i' := by
  have haddr := h.addr
  unfold newaddrEvent
  rw [← h.index, ← haddr.1]
  split_ifs with h6
  · rw [width, if_pos h6] at haddr
    rw [haddr.words]
  · rw [haddr.word (four_le_width _)]

/-- `ipa_nl_neigh_info_t` of one family. -/
structure NeighInfo.Agree (fam : ℕ) (i i' : NeighInfo) : Prop where
  family : i.ndmFamily = fam ∧ i'.ndmFamily = fam
  index : i.ndmIfindex = i'.ndmIfindex
  state : i.ndmState = i'.ndmState
  addr : i.localAddr.Agree (width i.localAddr.ssFamily) i'.localAddr
  lladdr : ∀ k < 6, i.lladdr k = i'.lladdr k

lemma NeighInfo.Agree.attr {i i' : NeighInfo} (h : i.Agree fam i')
    (hx : x.Agree (Rtm.newneigh.attrSize fam) x') : (i.attr x).Agree fam (i'.attr x') := by
  unfold NeighInfo.attr
  have hsize := hx.2
  rw [← hx.1]
  split_ifs with h1 h2
  · rw [h1] at hsize
    refine ⟨h.family, h.index, h.state, ?_, h.lladdr⟩
    simp only [h.family.1, h.family.2]
    exact ⟨rfl, hsize⟩
  · rw [h2] at hsize
    exact ⟨h.family, h.index, h.state, h.addr, hsize⟩
  · exact h

lemma NeighInfo.Agree.data {i i' : NeighInfo} (h : i.Agree fam i') (name : String) :
    neighData i name = neighData i' name := by
  have haddr := h.addr
  have hmac : (fun k : Fin 6 => i.lladdr k) = fun k : Fin 6 => i'.lladdr k :=
    funext fun k => h.lladdr k k.isLt
  unfold neighData
  rw [← h.index, ← haddr.1, hmac]
  split_ifs with h6 h4
  · rw [width, if_pos h6] at haddr
    have hwords : (fun k : Fin 4 => i.localAddr.word k) = fun k : Fin 4 => i'.localAddr.word k :=
      funext fun k => haddr.word (by omega)
    simp only [hwords]
  · rw [haddr.word (four_le_width _)]
  · rfl

/-- `ipa_nl_route_info_t` of one family. -/
structure RouteInfo.Agree (fam : ℕ) (i i' : RouteInfo) : Prop where
  family : i.rtmFamily = fam ∧ i'.rtmFamily = fam
  dstLen : i.rtmDstLen = i'.rtmDstLen
  table : i.rtmTable = i'.rtmTable
  protocol : i.rtmProtocol = i'.rtmProtocol
  scope : i.rtmScope = i'.rtmScope
  type : i.rtmType = i'.rtmType
  hasDst : i.hasDst = i'.hasDst
  hasGateway : i.hasGateway = i'.hasGateway
  dst : i.dstAddr.Agree (width fam) i'.dstAddr
  gateway : i.gatewayAddr.Agree (width fam) i'.gatewayAddr
  oif : i.oifIndex = i'.oifIndex

lemma RouteInfo.Agree.attr {i i' : RouteInfo} (h : i.Agree fam i')
    (hx : x.Agree (Rtm.newroute.attrSize fam) x') : (i.attr x).Agree fam (i'.attr x') := by
  unfold RouteInfo.attr
  have hsize := hx.2
  rw [← hx.1]
  split_ifs with h1 h4 h5
  · rw [h1] at hsize
    exact { h with hasDst := rfl, dst := ⟨h.family.1.trans h.family.2.symm, hsize⟩ }
  · rw [h4] at hsize
    exact { h with oif := u32_congr fun k hk => by simpa only [zero_add] using hsize k hk }
  · rw [h5] at hsize
    exact { h with hasGateway := rfl, gateway := ⟨h.family.1.trans h.family.2.symm, hsize⟩ }
  · exact h

lemma RouteInfo.Agree.events {i i' : RouteInfo} (h : i.Agree fam i') (mask : UInt32) :
    newrouteEvents i mask = newrouteEvents i' mask ∧
      delrouteEvents i mask = delrouteEvents i' mask := by
  have hword := h.dst.word (k := 0) (four_le_width _)
  have hgateway := h.gateway.word (k := 0) (four_le_width _)
  have hfamily : i.rtmFamily = i'.rtmFamily := h.family.1.trans h.family.2.symm
  have hbooted : i'.Booted ↔ i.Booted := by
    rw [RouteInfo.Booted, RouteInfo.Booted, h.type, h.protocol, h.scope, h.table]
  have hkernel : i'.Kernel ↔ i.Kernel := by
    rw [RouteInfo.Kernel, RouteInfo.Kernel, hfamily, h.type, h.protocol, h.table]
  unfold newrouteEvents delrouteEvents
  simp only [hbooted, hkernel, ← hfamily, ← h.hasDst, ← h.hasGateway, ← h.oif, ← h.dstLen, ← hword,
    ← hgateway]
  by_cases h6 : i.rtmFamily = afInet6
  · have hwidth : width fam = 16 := by rw [width, ← h.family.1, if_pos h6]
    have hdst := h.dst
    have hgw := h.gateway
    rw [hwidth] at hdst hgw
    rw [hdst.words, hgw.words]
    exact ⟨rfl, rfl⟩
  · -- a route of the kernel is an IPv6 route
    have hno : ¬ i.Kernel := fun hk => h6 hk.1
    simp only [h6, hno, false_and, if_false, and_self]

end Agree

section First

variable {b : Build} {w : List UInt8} {t : Rtm} {os : List ℕ}

/-- What may be behind a first message. -/
structure Behind (w : List UInt8) (rest : List (List UInt8)) (behind : ℕ → UInt8) : Prop where
  framed : ∀ r ∈ rest, Framed r
  short : (w ++ rest.flatten).length ≤ ipaNlMsgMaxLen
  quiet : Quiet behind

/-- The bytes of the header and the body of the first message. -/
lemma body_first {post : List UInt8} {behind : ℕ → UInt8} {n o : ℕ} (hn : n ≤ w.length) :
    (o < n → buffer (w ++ post) behind o = self w o) ∧
      (o + 2 ≤ n → u16 (buffer (w ++ post) behind) o = u16 (self w) o) ∧
      (o + 4 ≤ n → u32 (buffer (w ++ post) behind) o = u32 (self w) o) :=
  ⟨fun h => buffer_first (by omega), fun h => u16_congr fun i hi => buffer_first (by omega),
    fun h => u32_congr fun i hi => buffer_first (by omega)⟩

/-- A link is decoded from its header. -/
lemma link_first {post : List UInt8} {behind : ℕ → UInt8} (hw : 32 ≤ w.length) :
    decodeRtmLink (buffer (w ++ post) behind) = decodeRtmLink (self w) := by
  unfold decodeRtmLink
  rw [(body_first hw).1 (by omega), (body_first hw).2.2 (by omega),
    (body_first hw).2.2 (by omega), (body_first hw).2.2 (by omega)]

/-- An address is decoded to the same. -/
lemma addr_first (hos : rta.Tiles (self w) 24 w.length os)
    (hroom : ∀ o ∈ os, 4 + Rtm.newaddr.attrSize (self w 16).toNat (rtattr (self w) o).type ≤
      rta.length (self w) o) :
    ∃ i₀, ∀ rest behind, Behind w rest behind →
      ∃ i, decodeRtmAddr (buffer (w ++ rest.flatten) behind) (w ++ rest.flatten).length {} =
        some i ∧ i.Agree (self w 16).toNat i₀ := by
  refine ⟨(os.map (rtattr (self w))).foldl AddrInfo.attr
    { ifaFamily := (self w 16).toNat, ifaIndex := u32 (self w) 20 }, fun rest behind hb => ?_⟩
  have hbody := hos.le
  obtain ⟨zs, hzs, has⟩ := rtattrs_first (n := 8) hos (by omega) hb.framed hb.short hb.quiet
  refine ⟨_, by rw [decodeRtmAddr, has, Option.map_some], ?_⟩
  rw [(body_first hbody).1 (by omega), (body_first hbody).2.2 (by omega)]
  refine foldl_agree (P := AddrInfo.Agree (self w 16).toNat) (attrs_agree hos hroom) hzs
    (fun i z hz => ?_) (fun i i' x x' h hx => h.attr hx) ⟨⟨rfl, rfl⟩, rfl, rfl, fun _ _ => rfl⟩
  rw [AddrInfo.attr, hz, if_neg (by decide)]

/-- A neighbour is decoded to the same. -/
lemma neigh_first (hos : rta.Tiles (self w) 28 w.length os)
    (hroom : ∀ o ∈ os, 4 + Rtm.newneigh.attrSize (self w 16).toNat (rtattr (self w) o).type ≤
      rta.length (self w) o) :
    ∃ i₀, ∀ rest behind, Behind w rest behind →
      ∃ i, decodeRtmNeigh (buffer (w ++ rest.flatten) behind) (w ++ rest.flatten).length {} =
        some i ∧ i.Agree (self w 16).toNat i₀ := by
  refine ⟨(os.map (rtattr (self w))).foldl NeighInfo.attr
    { ndmFamily := (self w 16).toNat, ndmIfindex := u32 (self w) 20, ndmState := u16 (self w) 24 },
    fun rest behind hb => ?_⟩
  have hbody := hos.le
  obtain ⟨zs, hzs, has⟩ := rtattrs_first (n := 12) hos le_rfl hb.framed hb.short hb.quiet
  refine ⟨_, by rw [decodeRtmNeigh, has, Option.map_some], ?_⟩
  rw [(body_first hbody).1 (by omega), (body_first hbody).2.2 (by omega),
    (body_first hbody).2.1 (by omega)]
  refine foldl_agree (P := NeighInfo.Agree (self w 16).toNat) (attrs_agree hos hroom) hzs
    (fun i z hz => ?_) (fun i i' x x' h hx => h.attr hx)
    ⟨⟨rfl, rfl⟩, rfl, rfl, ⟨rfl, fun _ _ => rfl⟩, fun _ _ => rfl⟩
  rw [NeighInfo.attr, hz, if_neg (by decide), if_neg (by decide)]

/-- The route of a message by itself, with its attributes. -/
def routeOf (w : List UInt8) (os : List ℕ) : RouteInfo :=
  (os.map (rtattr (self w))).foldl RouteInfo.attr
    { rtmFamily := (self w 16).toNat
      rtmDstLen := (self w 17).toNat
      rtmTable := (self w 20).toNat
      rtmProtocol := (self w 21).toNat
      rtmScope := (self w 22).toNat
      rtmType := (self w 23).toNat }

/-- A route is decoded to the same. -/
lemma route_first {rest : List (List UInt8)} {behind : ℕ → UInt8}
    (hos : rta.Tiles (self w) 28 w.length os)
    (hroom : ∀ o ∈ os, 4 + Rtm.newroute.attrSize (self w 16).toNat (rtattr (self w) o).type ≤
      rta.length (self w) o) (hb : Behind w rest behind) :
    ∃ i, decodeRtmRoute (buffer (w ++ rest.flatten) behind) (w ++ rest.flatten).length {} =
      some i ∧ i.Agree (self w 16).toNat (routeOf w os) := by
  have hbody := hos.le
  obtain ⟨zs, hzs, has⟩ := rtattrs_first (n := 12) hos le_rfl hb.framed hb.short hb.quiet
  refine ⟨_, by rw [decodeRtmRoute, has, Option.map_some], ?_⟩
  rw [(body_first hbody).1 (by omega), (body_first hbody).1 (by omega),
    (body_first hbody).1 (by omega), (body_first hbody).1 (by omega),
    (body_first hbody).1 (by omega), (body_first hbody).1 (by omega)]
  refine foldl_agree (P := RouteInfo.Agree (self w 16).toNat) (attrs_agree hos hroom) hzs
    (fun i z hz => ?_) (fun i i' x x' h hx => h.attr hx)
    ⟨⟨rfl, rfl⟩, rfl, rfl, rfl, rfl, rfl, rfl, rfl, ⟨rfl, fun _ _ => rfl⟩, ⟨rfl, fun _ _ => rfl⟩,
      rfl⟩
  rw [RouteInfo.attr, hz, if_neg (by decide), if_neg (by decide), if_neg (by decide)]

/-- The attributes of what is deleted are those of what is added. -/
lemma attrSize_del (fam : ℕ) : Rtm.attrSize fam .delroute = Rtm.attrSize fam .newroute ∧
    Rtm.attrSize fam .delneigh = Rtm.attrSize fam .newneigh := by
  constructor <;> funext type <;> match type with
    | 0 | 1 | 2 | 3 | 4 | 5 => rfl
    | _ + 6 => rfl

/-- **What the first message makes does not depend on what is behind it.** -/
lemma decode_first (hw : WellFormed w) (ht : rtm w = some t) :
    ∃ evs stop, ∀ rest behind, Behind w rest behind →
      ∃ s, decode b (buffer (w ++ rest.flatten) behind) (w ++ rest.flatten).length {} t =
        some (s, evs, stop) := by
  obtain ⟨os, hos, hroom⟩ := hw.attrs t ht
  cases t with
  | newlink =>
      refine ⟨if b.android ∧ (decodeRtmLink (self w)).ifiFamily = afBridge then []
        else newlinkEvents (decodeRtmLink (self w)),
        decide (b.android ∧ (decodeRtmLink (self w)).ifiFamily = afBridge),
        fun rest behind _ => ⟨{ msg := { linkInfo := decodeRtmLink (self w) } }, ?_⟩⟩
      simp only [decode, link_first hos.le]
      split_ifs with h
      · rw [decide_eq_true h]
      · rw [decide_eq_false h]
  | dellink =>
      refine ⟨if b.android ∧ (decodeRtmLink (self w)).ifiFamily = afBridge then []
        else [.fid .linkDown (decodeRtmLink (self w)).ifiIndex],
        decide (b.android ∧ (decodeRtmLink (self w)).ifiFamily = afBridge),
        fun rest behind _ => ⟨{ msg := { linkInfo := decodeRtmLink (self w) } }, ?_⟩⟩
      simp only [decode, link_first hos.le]
      split_ifs with h
      · rw [decide_eq_true h]
      · rw [decide_eq_false h]
  | newaddr =>
      obtain ⟨i₀, hi₀⟩ := addr_first hos hroom
      refine ⟨[newaddrEvent b.name i₀], false, fun rest behind hb => ?_⟩
      obtain ⟨i, hi, hagree⟩ := hi₀ rest behind hb
      exact ⟨_, by rw [decode, hi, Option.map_some, hagree.event]⟩
  | newroute =>
      refine ⟨(newrouteEvents (routeOf w os) 0).1, false, fun rest behind hb => ?_⟩
      obtain ⟨i, hi, hagree⟩ := route_first hos hroom hb
      exact ⟨_, by rw [decode, hi, Option.map_some, (hagree.events 0).1]⟩
  | delroute =>
      rw [(attrSize_del _).1] at hroom
      refine ⟨(delrouteEvents (routeOf w os) 0).1, false, fun rest behind hb => ?_⟩
      obtain ⟨i, hi, hagree⟩ := route_first hos hroom hb
      exact ⟨_, by rw [decode, hi, Option.map_some, (hagree.events 0).2]⟩
  | newneigh =>
      obtain ⟨i₀, hi₀⟩ := neigh_first hos hroom
      refine ⟨[newneighEvent b.name i₀], false, fun rest behind hb => ?_⟩
      obtain ⟨i, hi, hagree⟩ := hi₀ rest behind hb
      refine ⟨{ msg := { neighInfo := i } }, ?_⟩
      rw [decode, hi, Option.map_some, newneighEvent, newneighEvent, hagree.data, hagree.index,
        hagree.state, hagree.family.1, hagree.family.2]
  | delneigh =>
      rw [(attrSize_del _).2] at hroom
      obtain ⟨i₀, hi₀⟩ := neigh_first hos hroom
      refine ⟨[delneighEvent i₀], false, fun rest behind hb => ?_⟩
      obtain ⟨i, hi, hagree⟩ := hi₀ rest behind hb
      exact ⟨_, by rw [decode, hi, Option.map_some, delneighEvent, delneighEvent, hagree.data]⟩

end First

/-! ## The messages of a datagram -/

section Datagram

variable {b : Build} {w : List UInt8} {rest : List (List UInt8)} {behind : ℕ → UInt8} {t : Rtm}

/-- A message by itself that is not decoded makes no event. -/
lemma posted_ignored (hw : Framed w) (hno : rtm w = none) : posted b behind [w] = some [] := by
  have hrun := decodeFrom_ignored (b := b) [] behind
    (List.forall_mem_singleton.mpr ⟨hw, hno⟩) {} (Nat.lt_succ_self _)
  simpa [posted, decodeNlmsg] using hrun

/-- The loop over a datagram, after its first message. -/
lemma posted_cons (hw : Framed w) (ht : rtm w = some t) : posted b behind (w :: rest) =
    (decode b (buffer (w ++ rest.flatten) behind) (w ++ rest.flatten).length {} t).bind fun r =>
      if r.2.2 then some r.2.1
      else (decodeFrom b (buffer (w ++ rest.flatten) behind) (w ++ rest.flatten).length w.length
        rest.flatten.length r.1).map (r.2.1 ++ ·) := by
  have htype := (header_middle [] rest.flatten behind hw).2
  obtain ⟨hok, hpad, hnext⟩ := framed_middle [] rest.flatten behind hw rest.flatten.length
  simp only [List.nil_append, List.length_nil] at htype hok hpad hnext
  rw [← List.length_append] at hok
  have hlen : (w ++ rest.flatten).length = w.length + rest.flatten.length := List.length_append
  have hleft : (w ++ rest.flatten).length - w.length = rest.flatten.length := by omega
  rw [posted, decodeNlmsg, List.flatten_cons, decodeFrom, if_pos hok, htype,
    show Rtm.ofType (nlmsgType (self w) 0) = some t from ht]
  simp only [hpad, hnext, hleft, show w.length ≤ (w ++ rest.flatten).length by omega, if_true]

/-- **The datagram makes what its first message makes**, as nothing behind it is decoded. -/
lemma posted_first (hw : Framed w) (ht : rtm w = some t)
    (hrest : ∀ r ∈ rest, Framed r ∧ rtm r = none) {s : State} {evs : List Event} {stop : Bool}
    (hdecode : decode b (buffer (w ++ rest.flatten) behind) (w ++ rest.flatten).length {} t =
      some (s, evs, stop)) : posted b behind (w :: rest) = some evs := by
  rw [posted_cons hw ht, hdecode, Option.bind_some]
  cases stop with
  | true => rfl
  | false =>
      have h16 := hw.length_le
      have hlen : (w ++ rest.flatten).length = w.length + rest.flatten.length :=
        List.length_append
      have hrun := decodeFrom_ignored (b := b) w behind hrest s
        (show rest.flatten.length < (w ++ rest.flatten).length by omega)
      rw [if_neg Bool.false_ne_true, hrun, Option.map_some, List.append_nil]

end Datagram

/-! ## The messages are independent -/

/-- **Messages in one datagram make the events that each of them makes in its own**, where only the
first of them is of a type that is decoded. -/
theorem independent (b : Build) (w : List UInt8) (rest : List (List UInt8))
    (hwf : ∀ r ∈ w :: rest, WellFormed r) (hrest : ∀ r ∈ rest, rtm r = none)
    (hlen : (w :: rest).flatten.length ≤ ipaNlMsgMaxLen) : Independent b (w :: rest) := by
  intro behind behind' hq hq'
  obtain ⟨hw, hwfs⟩ := List.forall_mem_cons.mp hwf
  have hignored : ∀ r ∈ rest, Framed r ∧ rtm r = none :=
    fun r hr => ⟨(hwfs r hr).framed, hrest r hr⟩
  have hnone : List.Forall₂ (fun r es => posted b behind' [r] = some es) rest
      (rest.map fun _ => []) :=
    List.forall₂_map_right_iff.mpr
      (List.forall₂_same.mpr fun r hr => posted_ignored (hignored r hr).1 (hignored r hr).2)
  have hnil : (rest.map fun _ => ([] : List Event)).flatten = [] := by simp
  cases ht : rtm w with
  | none =>
      refine ⟨[] :: rest.map fun _ => [], .cons (posted_ignored hw.framed ht) hnone, ?_⟩
      have hrun := decodeFrom_ignored (b := b) [] behind
        (List.forall_mem_cons.mpr ⟨⟨hw.framed, ht⟩, hignored⟩) {} (Nat.lt_succ_self _)
      rw [List.flatten_cons, hnil]
      exact hrun
  | some t =>
      obtain ⟨evs, stop, hdecode⟩ := decode_first (b := b) hw ht
      have hshort : (w ++ rest.flatten).length ≤ ipaNlMsgMaxLen := hlen
      obtain ⟨s, hs⟩ := hdecode rest behind ⟨fun r hr => (hwfs r hr).framed, hshort, hq⟩
      have hself : (w ++ List.flatten []).length ≤ ipaNlMsgMaxLen := by
        rw [List.length_append] at hshort
        simp only [List.flatten_nil, List.append_nil]
        omega
      obtain ⟨s', hs'⟩ := hdecode [] behind' ⟨fun r hr => absurd hr List.not_mem_nil, hself, hq'⟩
      refine ⟨evs :: rest.map fun _ => [], .cons ?_ hnone, ?_⟩
      · exact posted_first hw.framed ht (fun r hr => absurd hr List.not_mem_nil) hs'
      · rw [List.flatten_cons, hnil, List.append_nil]
        exact posted_first hw.framed ht hignored hs

/-- `RTM_NEWADDR` for 192.168.0.1 on an interface. -/
def newaddr (index : UInt8) : List UInt8 :=
  [32, 0, 0, 0, 20, 0, 0, 0] ++ List.replicate 8 0 ++ [2, 24, 0, 0, index, 0, 0, 0] ++
    [8, 0, 1, 0, 192, 168, 0, 1]

/-- `RTM_NEWRULE`, which is not decoded. -/
def newrule : List UInt8 := [28, 0, 0, 0, 32, 0, 0, 0] ++ List.replicate 20 0

/-- An address, and a rule behind it. -/
theorem independent_newaddr :
    Independent ⟨true, fun _ => "wlan0"⟩ [newaddr 3, newrule] := by
  have haddr : rtm (newaddr 3) = some .newaddr := by decide
  have hrule : rtm newrule = none := by decide
  refine independent _ _ _ (List.forall_mem_cons.mpr ⟨⟨⟨by decide, by decide⟩, ?_⟩,
    List.forall_mem_singleton.mpr ⟨⟨by decide, by decide⟩, ?_⟩⟩)
    (List.forall_mem_singleton.mpr hrule) (by decide)
  · intro t ht
    obtain rfl : Rtm.newaddr = t := by simpa [haddr] using ht
    exact ⟨[24], .cons (by decide) (by decide) (.nil _), by decide⟩
  · intro t ht
    simp [hrule] at ht

/-- `RTM_DELLINK` for an interface. -/
def dellink (index : UInt8) : List UInt8 :=
  [32, 0, 0, 0, 17, 0, 0, 0] ++ List.replicate 8 0 ++ [0, 0, 0, 0, index, 0, 0, 0] ++
    List.replicate 8 0

/-- **The second of two messages is decoded from the first**: two interfaces are gone, and the first
of them is told twice. -/
theorem independent_broken : ¬ ∀ (b : Build) (msgs : List (List UInt8)),
    (∀ w ∈ msgs, WellFormed w) → msgs.flatten.length ≤ ipaNlMsgMaxLen → Independent b msgs := by
  intro h
  have hrtm : ∀ w ∈ [dellink 3, dellink 4], Framed w ∧ rtm w = some .dellink := by
    refine List.forall_mem_cons.mpr ⟨⟨⟨by decide, by decide⟩, by decide⟩,
      List.forall_mem_singleton.mpr ⟨⟨by decide, by decide⟩, by decide⟩⟩
  have hwf : ∀ w ∈ [dellink 3, dellink 4], WellFormed w := by
    intro w hw
    refine ⟨(hrtm w hw).1, fun t ht => ?_⟩
    obtain rfl : Rtm.dellink = t := by simpa [(hrtm w hw).2] using ht
    have hlength : w.length = 32 := by
      rcases List.mem_pair.mp hw with rfl | rfl <;> rfl
    exact ⟨[], hlength ▸ .nil _, fun o ho => absurd ho List.not_mem_nil⟩
  have hquiet : Quiet fun _ => 0 := fun n _ hn => absurd hn.2.1 (by decide)
  obtain ⟨evs, hevs, hboth⟩ := h ⟨true, fun _ => ""⟩ _ hwf (by decide) _ _ hquiet hquiet
  have hthree : posted ⟨true, fun _ => ""⟩ (fun _ => 0) [dellink 3] =
      some [.fid .linkDown 3] := by decide +kernel
  have hfour : posted ⟨true, fun _ => ""⟩ (fun _ => 0) [dellink 4] =
      some [.fid .linkDown 4] := by decide +kernel
  have htwice : posted ⟨true, fun _ => ""⟩ (fun _ => 0) [dellink 3, dellink 4] =
      some [.fid .linkDown 3, .fid .linkDown 3] := by decide +kernel
  obtain _ | ⟨hes, _ | ⟨hes', ⟨⟩⟩⟩ := hevs
  obtain rfl := Option.some.inj (hthree.symm.trans hes)
  obtain rfl := Option.some.inj (hfour.symm.trans hes')
  exact absurd (Option.some.inj (htwice.symm.trans hboth)) (by decide)

end Ipacm.Netlink
