import OcnDevice.Ipacm.Netlink.Independent

/-!
# What is read of a datagram

`ipa_nl_decode_nlmsg` and the decoders walk over a datagram with lengths of type `unsigned int`,
which they count down.  They should read inside the datagram, and of a message and an attribute no
more than it has (`Contained`).  Exactly when they do is a matter of how the datagram is laid out
(`contained_iff`).

The decoders take the size of the header from the length, but not that of the family, so that their
loop goes on behind the attributes; and an address is copied in its full size, whatever the
attribute has.  So no well-formed message for an address, a neighbour or a route is contained
(`not_contained`).
-/

namespace Ipacm.Netlink

/-! ## The loops, and what they read -/

/-- The number of values of an `unsigned int`. -/
def wordSize : ℕ := 2 ^ 32

/-- Bytes that are read: a field of a header at a place, what a family has behind the header, for
the message at a place, or the value of the attribute at a place. -/
inductive Access
  | field (o n : ℕ)
  | body (msg o n : ℕ)
  | value (attr n : ℕ)
  deriving DecidableEq, Repr

/-- The size of the data of a `struct sockaddr_storage`, and behind which of the messages that are
decoded the function returns: on Android behind one for a bridge, where an interface has no name, or
where there is no memory. -/
structure Setting where
  addrSize : ℕ
  returns : ℕ → Bool

/-- How much `ipa_nl_decode_rtm_addr` copies of an attribute of a type. -/
def addrCopies (addrSize : ℕ) : ℕ → Option ℕ
  -- `IFA_ADDRESS`
  | 1 => some addrSize
  | _ => none

/-- How much `ipa_nl_decode_rtm_neigh` copies of it. -/
def neighCopies (addrSize : ℕ) : ℕ → Option ℕ
  -- `NDA_DST`, and `NDA_LLADDR` to `sa_data`
  | 1 => some addrSize
  | 2 => some 14
  | _ => none

/-- How much `ipa_nl_decode_rtm_route` copies of it. -/
def routeCopies (addrSize : ℕ) : ℕ → Option ℕ
  -- `RTA_DST`, `RTA_SRC` and `RTA_GATEWAY`
  | 1 | 2 | 5 => some addrSize
  -- `RTA_IIF`, `RTA_OIF` and `RTA_PRIORITY`
  | 3 | 4 | 6 => some 4
  | _ => none

/-- How much is copied of the attributes, if the decoder looks at them. -/
def Rtm.copies (addrSize : ℕ) : Rtm → Option (ℕ → Option ℕ)
  | newlink | dellink => none
  | newaddr => some (addrCopies addrSize)
  | newneigh | delneigh => some (neighCopies addrSize)
  | newroute | delroute => some (routeCopies addrSize)

/-- What is read of an attribute behind `rta_len`. -/
def attrAccesses (m : ℕ → UInt8) (copies : ℕ → Option ℕ) (_ rta _ : ℕ) :
    Option (List Access × Bool) :=
  some (Access.field (rta + 2) 2 :: ((copies (rtattr m rta).type).map (Access.value rta)).toList,
    false)

/-- What the loop over the attributes reads. -/
def attrReads (m : ℕ → UInt8) (copies : ℕ → Option ℕ) : ℕ → ℕ → ℕ → Option (List Access) :=
  rta.reads wordSize (fun o => Access.field o 2) (attrAccesses m copies) m

/-- What the decoder of a message reads of the attributes, if it looks at them. -/
def decoderReads (m : ℕ → UInt8) (fuel start len : ℕ) :
    Option (ℕ → Option ℕ) → Option (List Access)
  | some copies => attrReads m copies fuel start len
  | none => some []

/-- What is read for a message behind `nlmsg_len`, and whether the function returns then; the
decoders are given the datagram, and what is left of it. -/
def msgAccesses (s : Setting) (m : ℕ → UInt8) (fuel nlh buflen : ℕ) :
    Option (List Access × Bool) :=
  match Rtm.ofType (nlmsgType m nlh) with
  | some t =>
      (decoderReads m fuel (16 + t.bodySize) (Framing.wrapSub wordSize buflen 16)
        (t.copies s.addrSize)).map fun rs =>
          (Access.field (nlh + 4) 2 :: Access.body nlh 16 t.bodySize :: rs, s.returns nlh)
  | none => some ([Access.field (nlh + 4) 2], false)

/-- What `ipa_nl_decode_nlmsg` reads of a datagram. -/
def nlmsgReads (s : Setting) (m : ℕ → UInt8) : ℕ → ℕ → ℕ → Option (List Access) :=
  nlmsg.reads wordSize (fun o => Access.field o 4) (msgAccesses s m) m

/-! ## Statement -/

/-- It is inside a datagram of a size; and the message, or the attribute, is as long as what is read
of it. -/
def Access.Inside (m : ℕ → UInt8) (size : ℕ) : Access → Prop
  | field o n => o + n ≤ size
  | body msg o n => o + n ≤ size ∧ 16 + n ≤ nlmsg.length m msg
  | value attr n => attr + 4 + n ≤ size ∧ 4 + n ≤ rta.length m attr

/-- **The walk is contained**: it comes to an end, and all that it reads is inside. -/
def Contained (s : Setting) (datagram : List UInt8) (behind : ℕ → UInt8) : Prop :=
  ∃ fuel rs, nlmsgReads s (buffer datagram behind) fuel 0 datagram.length = some rs ∧
    ∀ r ∈ rs, r.Inside (buffer datagram behind) datagram.length

/-- The attributes lie inside the datagram one behind the other, each with a length that fits what
is left and at least as long as what is copied of it; and behind them nothing is left, or what is
inside does not begin an attribute that fits. -/
def AttrsInside (m : ℕ → UInt8) (size : ℕ) (copies : ℕ → Option ℕ) (start len : ℕ) : Prop :=
  ∃ os e, rta.Tiles m start e os ∧
    (∀ x ∈ os, rta.length m x ≤ Framing.left wordSize start len x ∧ x + 4 ≤ size ∧
      ∀ n, copies (rtattr m x).type = some n → x + 4 + n ≤ size ∧ 4 + n ≤ rta.length m x) ∧
    (Framing.left wordSize start len e < 4 ∨
      e + 2 ≤ size ∧ ¬ rta.Ok m e (Framing.left wordSize start len e))

/-- A message that is decoded has what its family has behind the header, and the attributes that are
decoded for it lie inside: those from the beginning of the datagram on, with what is left from the
message on. -/
def MessageInside (s : Setting) (m : ℕ → UInt8) (size nlh : ℕ) : Prop :=
  ∀ t, Rtm.ofType (nlmsgType m nlh) = some t → 16 + t.bodySize ≤ nlmsg.length m nlh ∧
    ∀ copies, t.copies s.addrSize = some copies →
      AttrsInside m size copies (16 + t.bodySize) (size - nlh - 16)

/-- The function returns behind a message. -/
def Returns (s : Setting) (m : ℕ → UInt8) (nlh : ℕ) : Prop :=
  (Rtm.ofType (nlmsgType m nlh)).isSome ∧ s.returns nlh = true

/-- **The messages lie inside** the datagram one behind the other, with their padding, and so does
what is decoded for them; and behind them no message fits, or one behind which the function returns.
-/
def MessagesInside (s : Setting) (m : ℕ → UInt8) (size : ℕ) : Prop :=
  ∃ os e, nlmsg.Tiles m 0 e os ∧ e ≤ size ∧
    (∀ x ∈ os, MessageInside s m size x ∧ ¬ Returns s m x) ∧
    (nlmsg.Ok m e (size - e) → MessageInside s m size e ∧ Returns s m e)

/-! ## Attributes -/

section Attributes

variable {m : ℕ → UInt8} {copies : ℕ → Option ℕ} {size start len x : ℕ}

lemma wordSize_pos : 0 < wordSize := by decide

lemma rta_length_lt (m : ℕ → UInt8) (o : ℕ) : rta.length m o < 65536 := by
  have h0 := (m o).toNat_lt
  have h1 := (m (o + 1)).toNat_lt
  show u16 m o < 65536
  rw [u16]
  omega

lemma attrAccesses_steady : Framing.Steady (attrAccesses m copies) := fun _ _ _ _ _ _ h => h

/-- What is read of an attribute is inside if its value is as long as what is copied. -/
lemma attr_visits_iff : Framing.Visits (attrAccesses m copies) (Access.Inside m size) x len false ↔
    x + 4 ≤ size ∧
      ∀ n, copies (rtattr m x).type = some n → x + 4 + n ≤ size ∧ 4 + n ≤ rta.length m x := by
  constructor
  · rintro ⟨fuel, rs, hrs, hgood⟩
    cases hrs
    obtain ⟨htype, hvalue⟩ := List.forall_mem_cons.mp hgood
    refine ⟨htype, fun n hn => hvalue (Access.value x n) ?_⟩
    rw [hn]
    exact List.mem_singleton_self _
  · rintro ⟨htype, hvalue⟩
    refine ⟨0, _, rfl, List.forall_mem_cons.mpr ⟨htype, fun r hr => ?_⟩⟩
    obtain ⟨n, hn, rfl⟩ := Option.map_eq_some_iff.mp (Option.mem_toList.mp hr)
    exact hvalue n hn

/-- **The loop over the attributes** reads inside exactly if they lie inside. -/
lemma attrReads_iff (hlen : len < wordSize) :
    (∃ fuel rs, attrReads m copies fuel start len = some rs ∧ ∀ r ∈ rs, r.Inside m size) ↔
      AttrsInside m size copies start len := by
  have hshort : ∀ o, alignFour (rta.length m o) < wordSize := by
    intro o
    have hlt := rta_length_lt m o
    rw [alignFour, wordSize]
    omega
  refine (Framing.reads_iff wordSize_pos hlen attrAccesses_steady fun o _ _ _ => hshort o).trans ?_
  constructor
  · rintro ⟨os, e, htiles, hos, hend⟩
    refine ⟨os, e, htiles, fun x hx => ?_, hend.imp_right fun h => ⟨h.1, h.2.resolve_right ?_⟩⟩
    · obtain ⟨hok, -, hvisits⟩ := hos x hx
      exact ⟨hok.2.2, attr_visits_iff.mp hvisits⟩
    · rintro ⟨fuel, rs, hrs, -⟩
      cases hrs
  · rintro ⟨os, e, htiles, hos, hend⟩
    refine ⟨os, e, htiles, fun x hx => ?_, hend.imp_right fun h => ⟨h.1, .inl h.2⟩⟩
    obtain ⟨hfit, hinside⟩ := hos x hx
    have hheader := htiles.header_le hx
    refine ⟨⟨hheader.trans hfit, hheader, hfit⟩, ?_, attr_visits_iff.mpr hinside⟩
    have h4 := hinside.1
    show x + 2 ≤ size
    omega

end Attributes

/-! ## Messages -/

section Messages

variable {s : Setting} {m : ℕ → UInt8} {size x len : ℕ} {stop : Bool}

lemma decoderReads_mono {copies : Option (ℕ → Option ℕ)} {fuel fuel' start : ℕ} {rs : List Access}
    (hle : fuel ≤ fuel') (h : decoderReads m fuel start len copies = some rs) :
    decoderReads m fuel' start len copies = some rs := by
  cases copies with
  | none => exact h
  | some c => exact Framing.reads_mono attrAccesses_steady hle h

lemma msgAccesses_steady : Framing.Steady (msgAccesses s m) := by
  intro fuel fuel' nlh buflen v hle h
  rw [msgAccesses] at h ⊢
  cases ht : Rtm.ofType (nlmsgType m nlh) with
  | none =>
      rw [ht] at h
      exact h
  | some t =>
      rw [ht] at h
      obtain ⟨rs, hrs, rfl⟩ := Option.map_eq_some_iff.mp h
      exact Option.map_eq_some_iff.mpr ⟨rs, decoderReads_mono hle hrs, rfl⟩

/-- What a decoder reads is inside if the attributes that it looks at lie inside. -/
lemma decoderReads_iff {start : ℕ} {copies : Option (ℕ → Option ℕ)} (hlen : len < wordSize) :
    (∃ fuel rs, decoderReads m fuel start len copies = some rs ∧ ∀ r ∈ rs, r.Inside m size) ↔
      ∀ c, copies = some c → AttrsInside m size c start len := by
  cases copies with
  | none => exact ⟨fun _ _ h => (by cases h), fun _ => ⟨0, [], rfl, by simp⟩⟩
  | some c =>
      refine (attrReads_iff hlen).trans ⟨fun h c' hc => ?_, fun h => h c rfl⟩
      cases hc
      exact h

/-- What is read for a message that is not decoded is inside, and the walk goes on. -/
lemma visits_ignored (ht : Rtm.ofType (nlmsgType m x) = none) (hx : x + 6 ≤ size) :
    Framing.Visits (msgAccesses s m) (Access.Inside m size) x len stop ↔ stop = false := by
  have hread : ∀ fuel, msgAccesses s m fuel x len = some ([Access.field (x + 4) 2], false) :=
    fun fuel => by rw [msgAccesses, ht]
  constructor
  · rintro ⟨fuel, rs, hrs, -⟩
    rw [hread] at hrs
    cases hrs
    rfl
  · rintro rfl
    have htype : (Access.field (x + 4) 2).Inside m size := show x + 4 + 2 ≤ size by omega
    exact ⟨0, _, hread 0, List.forall_mem_singleton.mpr htype⟩

/-- What is read for a message that is decoded is inside if the header of its family is, and the
attributes lie inside. -/
lemma visits_decoded {t : Rtm} (ht : Rtm.ofType (nlmsgType m x) = some t) (hx : x + 6 ≤ size)
    (hfit : nlmsg.length m x ≤ size) (h16 : 16 ≤ len) (hlen : len < wordSize) :
    Framing.Visits (msgAccesses s m) (Access.Inside m size) x len stop ↔
      (16 + t.bodySize ≤ nlmsg.length m x ∧ ∀ copies, t.copies s.addrSize = some copies →
        AttrsInside m size copies (16 + t.bodySize) (len - 16)) ∧ s.returns x = stop := by
  have hread : ∀ fuel, msgAccesses s m fuel x len =
      (decoderReads m fuel (16 + t.bodySize) (len - 16) (t.copies s.addrSize)).map fun rs =>
        (Access.field (x + 4) 2 :: Access.body x 16 t.bodySize :: rs, s.returns x) :=
    fun fuel => by rw [msgAccesses, ht, ← Framing.wrapSub_of_le h16 hlen]
  have hdecoder : (∃ fuel rs, decoderReads m fuel (16 + t.bodySize) (len - 16)
      (t.copies s.addrSize) = some rs ∧ ∀ r ∈ rs, r.Inside m size) ↔
        ∀ c, t.copies s.addrSize = some c →
          AttrsInside m size c (16 + t.bodySize) (len - 16) :=
    decoderReads_iff (by omega)
  constructor
  · rintro ⟨fuel, rs, hrs, hgood⟩
    rw [hread] at hrs
    obtain ⟨attrs, hattrs, heq⟩ := Option.map_eq_some_iff.mp hrs
    cases heq
    obtain ⟨-, hgood⟩ := List.forall_mem_cons.mp hgood
    obtain ⟨hbody, hinside⟩ := List.forall_mem_cons.mp hgood
    exact ⟨⟨hbody.2, hdecoder.mp ⟨fuel, attrs, hattrs, hinside⟩⟩, rfl⟩
  · rintro ⟨⟨hbody, hattrs⟩, rfl⟩
    obtain ⟨fuel, attrs, hrun, hinside⟩ := hdecoder.mpr hattrs
    have htype : (Access.field (x + 4) 2).Inside m size := show x + 4 + 2 ≤ size by omega
    have hbodyInside : (Access.body x 16 t.bodySize).Inside m size := ⟨by omega, hbody⟩
    exact ⟨fuel, _, by rw [hread, hrun, Option.map_some],
      List.forall_mem_cons.mpr ⟨htype, List.forall_mem_cons.mpr ⟨hbodyInside, hinside⟩⟩⟩

/-- **What is read for a message** is inside if what is decoded for it lies inside. -/
lemma msg_visits_iff (hsize : size < wordSize) (hok : nlmsg.Ok m x (size - x)) :
    Framing.Visits (msgAccesses s m) (Access.Inside m size) x (size - x) stop ↔
      MessageInside s m size x ∧ (stop = true ↔ Returns s m x) := by
  obtain ⟨hroom, hheader, hfit⟩ := hok
  have h16 : 16 ≤ size - x := hroom
  rw [MessageInside, Returns]
  cases ht : Rtm.ofType (nlmsgType m x) with
  | none =>
      rw [visits_ignored ht (by omega)]
      simp
  | some t =>
      rw [visits_decoded ht (by omega) (by omega) h16 (by omega)]
      simp only [Option.some.injEq, forall_eq', Option.isSome_some, true_and]
      refine and_congr_right fun _ => ?_
      rw [eq_comm, Bool.eq_iff_iff]

/-- Up to the end of the datagram nothing has wrapped. -/
lemma left_zero (hx : x ≤ size) (hsize : size < wordSize) :
    Framing.left wordSize 0 size x = size - x := by
  rw [Framing.left, Nat.sub_zero, Framing.wrapSub_of_le hx hsize]

/-- **The messages lie inside** if all that is read is inside. -/
lemma messagesInside_of_layout (hsize : size ≤ ipaNlMsgMaxLen)
    (h : nlmsg.Layout wordSize (fun o => Access.field o 4) (msgAccesses s m) (Access.Inside m size)
      m 0 size) : MessagesInside s m size := by
  have hword : size < wordSize := lt_of_le_of_lt hsize (by decide)
  obtain ⟨os, e, htiles, hos, hend⟩ := h
  have hplace : ∀ y ∈ os, y + 4 ≤ size ∧ nlmsg.Ok m y (size - y) := by
    intro y hy
    obtain ⟨hok, hfield, -⟩ := hos y hy
    have hfield' : y + 4 ≤ size := hfield
    rw [left_zero (by omega) hword] at hok
    exact ⟨hfield', hok⟩
  -- the length has not wrapped behind the last message, as the next field would lie outside
  have he : e ≤ size := by
    by_contra hout
    have hpad : e ≤ size + 3 := htiles.end_le (Nat.zero_le _) fun y hy => by
      obtain ⟨hfield, -, -, hfit⟩ := hplace y hy
      omega
    have hbig : 19 < wordSize := by decide
    have hleft : Framing.left wordSize 0 size e = size + wordSize - e := by
      rw [Framing.left, Nat.sub_zero, Framing.wrapSub_of_lt (by omega) (by omega)]
    rw [hleft] at hend
    rcases hend with hroom | ⟨hfield, -⟩
    · have hroom' : size + wordSize - e < 16 := hroom
      omega
    · have hfield' : e + 4 ≤ size := hfield
      omega
  refine ⟨os, e, htiles, he, fun y hy => ?_, fun hok => ?_⟩
  · obtain ⟨hfield, hok⟩ := hplace y hy
    have hvisits := (hos y hy).2.2
    rw [left_zero (by omega) hword] at hvisits
    obtain ⟨hinside, hstop⟩ := (msg_visits_iff hword hok).mp hvisits
    exact ⟨hinside, fun hreturns => Bool.false_ne_true (hstop.mpr hreturns)⟩
  · rw [left_zero he hword] at hend
    rcases hend with hroom | ⟨-, hnot | hvisits⟩
    · exact absurd hok.1 (by omega)
    · exact absurd hok hnot
    · obtain ⟨hinside, hstop⟩ := (msg_visits_iff hword hok).mp hvisits
      exact ⟨hinside, hstop.mp rfl⟩

/-- All that is read is inside if the messages lie inside. -/
lemma layout_of_messagesInside (hsize : size ≤ ipaNlMsgMaxLen) (h : MessagesInside s m size) :
    nlmsg.Layout wordSize (fun o => Access.field o 4) (msgAccesses s m) (Access.Inside m size)
      m 0 size := by
  have hword : size < wordSize := lt_of_le_of_lt hsize (by decide)
  obtain ⟨os, e, htiles, he, hos, hend⟩ := h
  refine ⟨os, e, htiles, fun y hy => ?_, ?_⟩
  · have hheader : 16 ≤ nlmsg.length m y := htiles.header_le hy
    have hnext := htiles.next_le hy
    have hpad := le_alignFour (nlmsg.length m y)
    rw [Framing.next] at hnext
    have hok : nlmsg.Ok m y (size - y) := ⟨show 16 ≤ _ by omega, hheader, by omega⟩
    have hfield : (Access.field y 4).Inside m size := show y + 4 ≤ size by omega
    obtain ⟨hinside, hreturns⟩ := hos y hy
    rw [left_zero (by omega) hword]
    exact ⟨hok, hfield, (msg_visits_iff hword hok).mpr ⟨hinside, by simp [hreturns]⟩⟩
  · rw [left_zero he hword]
    by_cases hroom : size - e < 16
    · exact .inl hroom
    · have hfield : (Access.field e 4).Inside m size := show e + 4 ≤ size by omega
      refine .inr ⟨hfield, ?_⟩
      by_cases hok : nlmsg.Ok m e (size - e)
      · obtain ⟨hinside, hreturns⟩ := hend hok
        exact .inr ((msg_visits_iff hword hok).mpr ⟨hinside, by simp [hreturns]⟩)
      · exact .inl hok

lemma nlmsgReads_iff (hsize : size ≤ ipaNlMsgMaxLen) :
    (∃ fuel rs, nlmsgReads s m fuel 0 size = some rs ∧ ∀ r ∈ rs, r.Inside m size) ↔
      MessagesInside s m size := by
  have hword : size < wordSize := lt_of_le_of_lt hsize (by decide)
  refine (Framing.reads_iff wordSize_pos hword msgAccesses_steady fun y _ hfield hfit => ?_).trans
    ⟨messagesInside_of_layout hsize, layout_of_messagesInside hsize⟩
  have hfield' : y + 4 ≤ size := hfield
  rw [left_zero (by omega) hword] at hfit
  have hbound : 2048 + 3 < wordSize := by decide
  rw [ipaNlMsgMaxLen] at hsize
  rw [alignFour]
  omega

end Messages

/-- **The walk is contained exactly if the messages lie inside**, with all that is decoded for them.
-/
theorem contained_iff (s : Setting) (datagram : List UInt8) (behind : ℕ → UInt8)
    (hlen : datagram.length ≤ ipaNlMsgMaxLen) : Contained s datagram behind ↔
      MessagesInside s (buffer datagram behind) datagram.length :=
  nlmsgReads_iff hlen

/-! ## Well-formed messages are not contained -/

section WellFormed

variable {s : Setting} {m : ℕ → UInt8} {copies : ℕ → Option ℕ} {o start len size e : ℕ}
  {os os' : List ℕ} {w : List UInt8} {t : Rtm} {behind : ℕ → UInt8}

/-- A walk over attributes that tile the datagram comes to its end, where something is left. -/
lemma tiles_passed {left : ℕ → ℕ} (h : rta.Tiles m o size os) (h' : rta.Tiles m o e os')
    (hleft : ∀ y, o ≤ y → y ≤ size → size - y + 4 ≤ left y) (hos' : ∀ x ∈ os', x + 4 ≤ size) :
    4 ≤ left e ∧ (e + 2 ≤ size → rta.Ok m e (left e)) := by
  generalize hend : size = n at h
  induction h generalizing e os' with
  | nil o =>
      subst hend
      cases h' with
      | nil =>
          have hroom := hleft size le_rfl le_rfl
          exact ⟨by omega, fun hin => by omega⟩
      | cons =>
          have hin := (List.forall_mem_cons.mp hos').1
          omega
  | @cons o n os hheader hle htiles ih =>
      subst hend
      cases h' with
      | nil =>
          have hpad := le_alignFour (rta.length m o)
          rw [Framing.next] at hle
          have hroom := hleft o le_rfl (by omega)
          exact ⟨by omega, fun _ => ⟨show 4 ≤ _ by omega, hheader, by omega⟩⟩
      | cons _ _ htiles' =>
          have hpass : o ≤ rta.next m o := Nat.le_add_right _ _
          exact ih htiles' (fun y hy => hleft y (hpass.trans hy))
            (List.forall_mem_cons.mp hos').2 rfl

/-- The loop over the attributes goes on behind those that tile the datagram, if the size of the
header of the family has not been taken from the length. -/
lemma not_attrsInside (h : rta.Tiles m start size os) (hlen : size - start + 4 ≤ len)
    (hword : len < wordSize) : ¬ AttrsInside m size copies start len := by
  rintro ⟨os', e, htiles, hos, hend⟩
  have hleft : ∀ y, start ≤ y → y ≤ size →
      size - y + 4 ≤ Framing.left wordSize start len y := by
    intro y hy hin
    rw [Framing.left, Framing.wrapSub_of_le (by omega) hword]
    omega
  obtain ⟨hroom, hok⟩ := tiles_passed h htiles hleft fun x hx => (hos x hx).2.1
  rcases hend with hnone | ⟨hin, hnot⟩
  · omega
  · exact hnot (hok hin)

/-- **No well-formed message with attributes that are decoded is contained**, in a datagram of its
own. -/
lemma not_contained (hw : WellFormed w) (ht : rtm w = some t)
    (hcopies : t.copies s.addrSize = some copies) (hlen : w.length ≤ ipaNlMsgMaxLen) :
    ¬ Contained s w behind := by
  intro h
  obtain ⟨os, hos, -⟩ := hw.attrs t ht
  have hle := hos.le
  have hsame : ∀ i < w.length, buffer w behind i = self w i := by
    intro i hi
    rw [self, buffer, buffer, if_pos hi, if_pos hi]
  have hlength : nlmsg.length (buffer w behind) 0 = nlmsg.length (self w) 0 :=
    u32_congr fun i hi => hsame _ (by omega)
  have htype : Rtm.ofType (nlmsgType (buffer w behind) 0) = some t := by
    rw [show nlmsgType (buffer w behind) 0 = nlmsgType (self w) 0 from
      u16_congr fun i hi => hsame _ (by omega)]
    exact ht
  have hfirst : MessageInside s (buffer w behind) w.length 0 := by
    obtain ⟨ps, e, htiles, -, hps, hend⟩ := (nlmsgReads_iff hlen).mp h
    cases htiles with
    | nil =>
        have hpad := le_alignFour (nlmsg.length (self w) 0)
        have hfit := hw.framed.padded
        refine (hend ⟨show 16 ≤ _ by omega, hlength ▸ hw.framed.header, ?_⟩).1
        rw [hlength]
        omega
    | cons => exact (List.forall_mem_cons.mp hps).1.1
  have hbody : 8 ≤ t.bodySize := by cases t <;> decide
  have htiles : rta.Tiles (buffer w behind) (16 + t.bodySize) w.length os :=
    hos.congr fun p _ hp => u16_congr fun i hi => hsame _ (by
      change p + 4 ≤ w.length at hp
      omega)
  have hword : ipaNlMsgMaxLen < wordSize := by decide
  exact not_attrsInside htiles (by omega) (by omega) ((hfirst t htype).2 copies hcopies)

end WellFormed

/-- Links that are gone, as in a datagram from the kernel, are read inside it. -/
theorem contained_dellink : Contained ⟨126, fun _ => false⟩ (dellink 3) fun _ => 0 := by
  refine (contained_iff _ _ _ (by decide)).mpr ⟨[0], 32, ?_, by decide, ?_,
    fun hok => absurd hok (by decide)⟩
  · exact .cons (by decide) (by decide) (.nil _)
  · refine List.forall_mem_singleton.mpr ⟨fun t ht => ?_, fun hret => Bool.false_ne_true hret.2⟩
    have htype : Rtm.ofType (nlmsgType (buffer (dellink 3) fun _ => 0) 0) = some .dellink := by
      decide
    obtain rfl : Rtm.dellink = t := by simpa [htype] using ht
    exact ⟨by decide, fun copies h => by cases h⟩

/-- **What is behind the datagram is read** for an address: the next attribute is looked for there,
and its address is copied in the size of the largest one. -/
theorem contained_broken : ¬ ∀ (s : Setting) (datagram : List UInt8) (behind : ℕ → UInt8),
    datagram.length ≤ ipaNlMsgMaxLen → Contained s datagram behind := by
  intro h
  have haddr : rtm (newaddr 3) = some .newaddr := by decide
  have hw : WellFormed (newaddr 3) := by
    refine ⟨⟨by decide, by decide⟩, fun t ht => ?_⟩
    obtain rfl : Rtm.newaddr = t := by simpa [haddr] using ht
    exact ⟨[24], .cons (by decide) (by decide) (.nil _), by decide⟩
  exact not_contained hw haddr rfl (by decide)
    (h ⟨126, fun _ => false⟩ (newaddr 3) (fun _ => 0) (by decide))

end Ipacm.Netlink
