import OcnDevice.IpaNat.Table

/-!
# Hashes and checksum differences

The pure functions of `ipa_nat_drvi.c` that a rule's fields go through: the two table hashes and
the two incremental checksums.  All four work on the C types' own widths.
-/

namespace IpaNat

/-! ## The table hashes -/

/-- The end that the two hashes share: mask with the table size, and use the size itself instead
of zero, "as zero is unused entry in nat tables". -/
def maskHash (hash size : UInt16) : UInt16 :=
  if hash &&& size = 0 then size else hash &&& size

/-- `dst_hash`. -/
def dstHash (hwV4 : Bool) (publicIp trgtIp : UInt32) (trgtPort publicPort : UInt16)
    (proto : UInt8) (size : UInt16) : UInt16 :=
  let hash := trgtIp.toUInt16 ^^^ (trgtIp >>> 16).toUInt16 ^^^ trgtPort ^^^ publicPort
    ^^^ proto.toUInt16
  let hash := if hwV4 then hash ^^^ (publicIp.toUInt16 ^^^ (publicIp >>> 16).toUInt16) else hash
  maskHash hash size

/-- `src_hash`. -/
def srcHash (privIp : UInt32) (privPort : UInt16) (trgtIp : UInt32) (trgtPort : UInt16)
    (proto : UInt8) (size : UInt16) : UInt16 :=
  maskHash (privIp.toUInt16 ^^^ (privIp >>> 16).toUInt16 ^^^ privPort ^^^ trgtIp.toUInt16
    ^^^ (trgtIp >>> 16).toUInt16 ^^^ trgtPort ^^^ proto.toUInt16) size

lemma maskHash_le (hash size : UInt16) : (maskHash hash size).toNat ≤ size.toNat := by
  unfold maskHash
  split
  · exact le_refl _
  · rw [UInt16.toNat_and]
    exact Nat.and_le_right

lemma maskHash_pos {hash size : UInt16} (hs : 0 < size.toNat) : 0 < (maskHash hash size).toNat := by
  unfold maskHash
  split
  · exact hs
  · rename_i h
    refine Nat.pos_of_ne_zero fun e => h ?_
    exact UInt16.toNat_inj.mp (by simpa using e)

/-- `table_entries - 1`, as the `uint16_t` argument `size` of the hashes. -/
def hashSize (tableEntries : ℕ) : UInt16 := UInt16.ofNat (sub16 tableEntries 1)

lemma hashSize_toNat {n : ℕ} (h0 : 0 < n) (h : n < 2 ^ 16) : (hashSize n).toNat = n - 1 := by
  unfold hashSize sub16
  rw [UInt16.toNat_ofNat']
  omega

/-! ## The checksum differences -/

/-- "check for carry forward(CF), if any add it". -/
def foldCarry (cksum : UInt32) : UInt32 :=
  if cksum >>> 16 ≠ 0 then (cksum &&& 0x0000FFFF) + 1 else cksum

/-- `ipa_nati_calc_ip_cksum`. -/
def ipaNatiCalcIpCksum (pubIpAddr privIpAddr : UInt32) : UInt16 :=
  let cksum := pubIpAddr &&& 0xFFFF
  let cksum := foldCarry (cksum + (pubIpAddr >>> 16))
  let privIpAddr := ~~~ privIpAddr
  let cksum := foldCarry (cksum + (privIpAddr &&& 0xFFFF))
  let cksum := foldCarry (cksum + (privIpAddr >>> 16))
  cksum.toUInt16

/-- `ipa_nati_calc_tcp_udp_cksum`. -/
def ipaNatiCalcTcpUdpCksum (pubIpAddr : UInt32) (pubPort : UInt16) (privIpAddr : UInt32)
    (privPort : UInt16) : UInt16 :=
  let cksum := pubIpAddr &&& 0xFFFF
  let cksum := foldCarry (cksum + (pubIpAddr >>> 16))
  let cksum := foldCarry (cksum + pubPort.toUInt32)
  let privIpAddr := ~~~ privIpAddr
  let cksum := foldCarry (cksum + (privIpAddr &&& 0xFFFF))
  let cksum := foldCarry (cksum + (privIpAddr >>> 16))
  let privPort := ~~~ privPort
  let cksum := foldCarry (cksum + privPort.toUInt32)
  cksum.toUInt16

end IpaNat
