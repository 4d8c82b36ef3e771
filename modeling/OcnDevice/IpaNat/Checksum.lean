import OcnDevice.Core.OnesComplement
import OcnDevice.IpaNat.Hash

/-!
# The checksum differences of a rule

A packet that leaves through the NAT gets the public address and port in place of the private ones,
and its checksums are updated by the differences that were computed with the rule.  Here are the two
kinds of packets, with the words that their checksums are sums of, and what the differences are worth:
they are sums in one's complement with no carry missing, and a packet with the checksum updated passes
the check that the packet before passed.
-/

namespace IpaNat

open OnesComplement

/-! ## Words -/

/-- The two words of an address, as their sum. -/
def addrSum (ip : UInt32) : ℕ := ip.toNat % 2 ^ 16 + ip.toNat / 2 ^ 16

lemma addrSum_le (ip : UInt32) : addrSum ip ≤ 131070 := by
  have hlt := ip.toNat_lt
  unfold addrSum
  omega

lemma toNat_low (ip : UInt32) : (ip &&& 0xFFFF).toNat = ip.toNat % 2 ^ 16 := by
  rw [UInt32.toNat_and]
  exact Nat.and_two_pow_sub_one_eq_mod _ 16

lemma toNat_high (ip : UInt32) : (ip >>> 16).toNat = ip.toNat / 2 ^ 16 := by
  rw [UInt32.toNat_shiftRight]
  exact Nat.shiftRight_eq_div_pow _ 16

lemma toNat_complAddr (ip : UInt32) : (~~~ ip).toNat = 2 ^ 32 - 1 - ip.toNat := by
  rw [UInt32.toNat_not]
  rfl

/-- The words of the complement of an address are the complements of its words. -/
lemma addrSum_compl (ip : UInt32) : addrSum (~~~ ip) = 131070 - addrSum ip := by
  have hlt := ip.toNat_lt
  rw [addrSum, toNat_complAddr, addrSum]
  omega

/-! ## The folds -/

/-- **No carry is lost** when one fold follows the addition of a word. -/
lemma toNat_foldCarry {a b : UInt32} {n : ℕ} (ha : a.toNat = endAround n) (hb : b.toNat ≤ 65535) :
    (foldCarry (a + b)).toNat = endAround (n + b.toNat) := by
  have hle := endAround_le n
  have hsum : (a + b).toNat = endAround n + b.toNat := by
    rw [UInt32.toNat_add, ha]
    omega
  have hcarry : (a + b) >>> 16 ≠ 0 ↔ 65535 < endAround n + b.toNat := by
    rw [Ne, ← UInt32.toNat_inj, toNat_high, hsum]
    simp only [UInt32.toNat_zero]
    omega
  rw [← endAround_add, foldCarry]
  by_cases h : 65535 < endAround n + b.toNat
  · have hlow : ((a + b) &&& 0x0000FFFF).toNat = (endAround n + b.toNat) % 2 ^ 16 := by
      rw [toNat_low, hsum]
    rw [if_pos (hcarry.mpr h), UInt32.toNat_add, hlow, endAround_of_lt h (by omega)]
    simp only [UInt32.toNat_one]
    omega
  · have hsmall : endAround n + b.toNat ≤ 65535 := by omega
    rw [if_neg (fun hc => h (hcarry.mp hc)), hsum, endAround_of_le hsmall]

section Differences

variable (pubIpAddr privIpAddr : UInt32) (pubPort privPort : UInt16)

/-- The sum that both functions begin with. -/
lemma toNat_pubSum : (foldCarry ((pubIpAddr &&& (0xFFFF : UInt32)) + (pubIpAddr >>> 16))).toNat =
    endAround (addrSum pubIpAddr) := by
  have hlt := pubIpAddr.toNat_lt
  have hlow : (pubIpAddr &&& (0xFFFF : UInt32)).toNat = endAround (pubIpAddr.toNat % 2 ^ 16) := by
    rw [toNat_low, endAround_of_le (by omega)]
  rw [toNat_foldCarry hlow (by rw [toNat_high]; omega), toNat_high]
  rfl

/-- The words of the complement of the private address are added to a sum. -/
lemma toNat_addCompl {cksum : UInt32} {n : ℕ} (h : cksum.toNat = endAround n) :
    (foldCarry (foldCarry (cksum + (~~~ privIpAddr &&& 0xFFFF)) +
      (~~~ privIpAddr >>> 16))).toNat =
      endAround (n + addrSum (~~~ privIpAddr)) := by
  have hlt := (~~~ privIpAddr).toNat_lt
  rw [toNat_foldCarry (toNat_foldCarry h (by rw [toNat_low]; omega)) (by rw [toNat_high]; omega),
    toNat_low, toNat_high, add_assoc]
  rfl

/-- **`ipa_nati_calc_ip_cksum` is the sum in one's complement** of the words of the public address and
the complements of those of the private one. -/
theorem toNat_ipaNatiCalcIpCksum : (ipaNatiCalcIpCksum pubIpAddr privIpAddr).toNat =
    endAround (addrSum pubIpAddr + addrSum (~~~ privIpAddr)) := by
  have hle := endAround_le (addrSum pubIpAddr + addrSum (~~~ privIpAddr))
  rw [ipaNatiCalcIpCksum, UInt32.toNat_toUInt16,
    toNat_addCompl privIpAddr (toNat_pubSum pubIpAddr), Nat.mod_eq_of_lt (by omega)]

/-- **`ipa_nati_calc_tcp_udp_cksum` is the sum in one's complement** with the ports as well. -/
theorem toNat_ipaNatiCalcTcpUdpCksum :
    (ipaNatiCalcTcpUdpCksum pubIpAddr pubPort privIpAddr privPort).toNat =
      endAround (addrSum pubIpAddr + pubPort.toNat + addrSum (~~~ privIpAddr) +
        (~~~ privPort).toNat) := by
  have hpub := pubPort.toNat_lt
  have hpriv := (~~~ privPort).toNat_lt
  have hle := endAround_le (addrSum pubIpAddr + pubPort.toNat + addrSum (~~~ privIpAddr) +
    (~~~ privPort).toNat)
  have hport := toNat_foldCarry (b := pubPort.toUInt32) (toNat_pubSum pubIpAddr)
    (by rw [UInt16.toNat_toUInt32]; omega)
  rw [UInt16.toNat_toUInt32] at hport
  rw [ipaNatiCalcTcpUdpCksum, UInt32.toNat_toUInt16,
    toNat_foldCarry (toNat_addCompl privIpAddr hport) (by rw [UInt16.toNat_toUInt32]; omega),
    UInt16.toNat_toUInt32, Nat.mod_eq_of_lt (by omega)]

end Differences

/-! ## Packets -/

/-- An IPv4 header.  Its first word begins with the version; `others` are the words that the
translation leaves alone, the target address among them. -/
structure Ipv4Header where
  first : UInt16
  srcAddr : UInt32
  checksum : UInt16
  others : List UInt16
  version : first >>> 12 = 4

/-- A TCP or UDP segment with its pseudo-header, of which the source address and the protocol are
named. -/
structure TcpUdpSegment where
  srcAddr : UInt32
  protocol : UInt8
  srcPort : UInt16
  checksum : UInt16
  others : List UInt16
  isTcpUdp : protocol = 6 ∨ protocol = 17

namespace Ipv4Header

/-- The sum of all words but the checksum. -/
def sum (p : Ipv4Header) : ℕ := p.first.toNat + addrSum p.srcAddr + (p.others.map UInt16.toNat).sum

/-- The header passes the receiver's check. -/
def Valid (p : Ipv4Header) : Prop := Accepts p.sum p.checksum

/-- The header gets another source address, and its checksum is updated. -/
def translate (p : Ipv4Header) (pubIpAddr : UInt32) (ipChksum : UInt16) : Ipv4Header :=
  { p with srcAddr := pubIpAddr, checksum := incrementalUpdate p.checksum ipChksum }

lemma sum_ne_zero (p : Ipv4Header) : p.sum ≠ 0 := by
  have hfirst : p.first ≠ 0 := by
    intro h
    have hversion := p.version
    rw [h] at hversion
    exact absurd hversion (by decide)
  have hpos : p.first.toNat ≠ 0 := fun h => hfirst (UInt16.toNat_inj.mp h)
  unfold sum
  omega

end Ipv4Header

namespace TcpUdpSegment

/-- The sum of all words but the checksum. -/
def sum (p : TcpUdpSegment) : ℕ :=
  addrSum p.srcAddr + p.protocol.toNat + p.srcPort.toNat + (p.others.map UInt16.toNat).sum

/-- The segment passes the receiver's check. -/
def Valid (p : TcpUdpSegment) : Prop := Accepts p.sum p.checksum

/-- The segment gets another source, and its checksum is updated. -/
def translate (p : TcpUdpSegment) (pubIpAddr : UInt32) (pubPort tcpUdpChksum : UInt16) :
    TcpUdpSegment :=
  { p with
    srcAddr := pubIpAddr
    srcPort := pubPort
    checksum := incrementalUpdate p.checksum tcpUdpChksum }

lemma sum_ne_zero (p : TcpUdpSegment) : p.sum ≠ 0 := by
  have hpos : p.protocol.toNat ≠ 0 := by
    rcases p.isTcpUdp with h | h
    · rw [h]
      decide
    · rw [h]
      decide
  unfold sum
  omega

end TcpUdpSegment

section Differences

variable {pubIpAddr : UInt32} {pubPort : UInt16}

/-- The difference of the addresses. -/
lemma ipCksum_modEq (pubIpAddr privIpAddr : UInt32) :
    (ipaNatiCalcIpCksum pubIpAddr privIpAddr).toNat + addrSum privIpAddr ≡
      addrSum pubIpAddr [MOD 65535] := by
  have hle := addrSum_le privIpAddr
  have hmod := endAround_modEq (addrSum pubIpAddr + addrSum (~~~ privIpAddr))
  rw [toNat_ipaNatiCalcIpCksum]
  rw [addrSum_compl] at hmod ⊢
  unfold Nat.ModEq at hmod ⊢
  omega

/-- The difference of the addresses and ports. -/
lemma tcpUdpCksum_modEq (pubIpAddr privIpAddr : UInt32) (pubPort privPort : UInt16) :
    (ipaNatiCalcTcpUdpCksum pubIpAddr pubPort privIpAddr privPort).toNat +
      (addrSum privIpAddr + privPort.toNat) ≡ addrSum pubIpAddr + pubPort.toNat [MOD 65535] := by
  have hle := addrSum_le privIpAddr
  have hport := privPort.toNat_lt
  have hmod := endAround_modEq (addrSum pubIpAddr + pubPort.toNat + addrSum (~~~ privIpAddr) +
    (~~~ privPort).toNat)
  rw [toNat_ipaNatiCalcTcpUdpCksum]
  rw [addrSum_compl, toNat_compl] at hmod ⊢
  unfold Nat.ModEq at hmod ⊢
  omega

/-- **A translated header is valid.** -/
lemma Ipv4Header.Valid.translate {p : Ipv4Header} (h : p.Valid) :
    (p.translate pubIpAddr (ipaNatiCalcIpCksum pubIpAddr p.srcAddr)).Valid := by
  have hdiff := ipCksum_modEq pubIpAddr p.srcAddr
  refine Accepts.update h ?_ (sum_ne_zero (p.translate pubIpAddr _))
  show p.first.toNat + addrSum pubIpAddr + (p.others.map UInt16.toNat).sum ≡
    p.first.toNat + addrSum p.srcAddr + (p.others.map UInt16.toNat).sum + _ [MOD 65535]
  unfold Nat.ModEq at hdiff ⊢
  omega

/-- **A translated segment is valid.** -/
lemma TcpUdpSegment.Valid.translate {p : TcpUdpSegment} (h : p.Valid) :
    (p.translate pubIpAddr pubPort
      (ipaNatiCalcTcpUdpCksum pubIpAddr pubPort p.srcAddr p.srcPort)).Valid := by
  have hdiff := tcpUdpCksum_modEq pubIpAddr p.srcAddr pubPort p.srcPort
  refine Accepts.update h ?_ (sum_ne_zero (p.translate pubIpAddr pubPort _))
  show addrSum pubIpAddr + p.protocol.toNat + pubPort.toNat + (p.others.map UInt16.toNat).sum ≡
    addrSum p.srcAddr + p.protocol.toNat + p.srcPort.toNat + (p.others.map UInt16.toNat).sum + _
      [MOD 65535]
  unfold Nat.ModEq at hdiff ⊢
  omega

end Differences

/-- **The differences of a rule are right**: they are what the words that are put in add up to, less
what those that are taken out do; each is the sum in one's complement that the code is to compute,
every carry included; and a packet whose checksum is updated by them passes the check, if the packet
before did. -/
theorem checksum_differences_right (pubIpAddr privIpAddr : UInt32) (pubPort privPort : UInt16) :
    ((ipaNatiCalcIpCksum pubIpAddr privIpAddr).toNat + addrSum privIpAddr ≡
        addrSum pubIpAddr [MOD 65535] ∧
      (ipaNatiCalcTcpUdpCksum pubIpAddr pubPort privIpAddr privPort).toNat +
        (addrSum privIpAddr + privPort.toNat) ≡ addrSum pubIpAddr + pubPort.toNat [MOD 65535]) ∧
    ((ipaNatiCalcIpCksum pubIpAddr privIpAddr).toNat =
        endAround (addrSum pubIpAddr + addrSum (~~~ privIpAddr)) ∧
      (ipaNatiCalcTcpUdpCksum pubIpAddr pubPort privIpAddr privPort).toNat =
        endAround (addrSum pubIpAddr + pubPort.toNat + addrSum (~~~ privIpAddr) +
          (~~~ privPort).toNat)) ∧
    (∀ p : Ipv4Header, p.srcAddr = privIpAddr → p.Valid →
      (p.translate pubIpAddr (ipaNatiCalcIpCksum pubIpAddr privIpAddr)).Valid) ∧
    ∀ p : TcpUdpSegment, p.srcAddr = privIpAddr → p.srcPort = privPort → p.Valid →
      (p.translate pubIpAddr pubPort
        (ipaNatiCalcTcpUdpCksum pubIpAddr pubPort privIpAddr privPort)).Valid := by
  refine ⟨⟨ipCksum_modEq _ _, tcpUdpCksum_modEq _ _ _ _⟩, ⟨toNat_ipaNatiCalcIpCksum _ _,
    toNat_ipaNatiCalcTcpUdpCksum _ _ _ _⟩, fun p haddr hvalid => ?_,
    fun p haddr hport hvalid => ?_⟩
  · rw [← haddr]
    exact hvalid.translate
  · rw [← haddr, ← hport]
    exact hvalid.translate

/-- A packet of 192.168.43.2 leaves with the source 10.0.0.1. -/
theorem checksum_differences_right_ping :
    (Ipv4Header.mk 0x4500 0x0A000001
      (incrementalUpdate 0x3EEF (ipaNatiCalcIpCksum 0x0A000001 0xC0A82B02))
      [0x0054, 0x0000, 0x4000, 0x4001, 0x0808, 0x0808] (by decide)).Valid := by
  have hvalid : (Ipv4Header.mk 0x4500 0xC0A82B02 0x3EEF
      [0x0054, 0x0000, 0x4000, 0x4001, 0x0808, 0x0808] (by decide)).Valid := by
    unfold Ipv4Header.Valid
    decide
  exact (checksum_differences_right 0x0A000001 0xC0A82B02 0 0).2.2.1 _ rfl hvalid

end IpaNat
