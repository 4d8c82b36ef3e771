import OcnDevice.Core.Bytes
import OcnDevice.Core.Inet
import OcnDevice.Core.Loop

/-!
# Texts of address prefixes

`PrefixParser::add` reads an address with the length of its prefix behind a slash.  It splits the
text at the first slash, reads the number with `atoi` and the address with `inet_pton`, and builds
the mask; a text that none of these objects to is stored.

What a text says is `Denotes`, and `IsV4` and `IsV6` say how it is to be stored.  There are two
differences.  The mask of version 6 is filled in for an address of version 4 as well
(`add_v4_accepts`), so none of these is stored as it should be; and `atoi` stops at the first
character that is no digit, as both functions stop at a NUL, so a text of version 6 may be accepted
which has more behind its number (`Clean`).
-/

namespace IpaCfg

open Bytes Inet

/-- `IP_FAM`. -/
inductive IpFam
  | v4
  | v6
  | invalid
  deriving DecidableEq, Repr

/-- `Prefix`; the arrays have four words. -/
structure Prefix where
  fam : IpFam
  v4Addr : BitVec 32
  v4Mask : BitVec 32
  v6Addr : List (BitVec 32)
  v6Mask : List (BitVec 32)
  deriving DecidableEq, Repr

/-- `PrefixParser`. -/
structure PrefixParser where
  /-- `mPrefixes`. -/
  prefixes : List Prefix
  /-- `mLastErr`. -/
  lastErr : List Char
  deriving DecidableEq, Repr

/-! ## The functions of the parser -/

/-- The constructor. -/
def PrefixParser.init : PrefixParser := ⟨[], "No Err".toList⟩

/-- `guessIPFamily`. -/
def guessIPFamily (s : List Char) : IpFam := if ':' ∈ s then .v6 else .v4

/-- `splitIntoAddrAndMask`. -/
def splitIntoAddrAndMask (s : List Char) : Option (List Char × List Char) :=
  if '/' ∈ s then
    let pos := s.idxOf '/'
    if 1 ≤ pos then some (s.take pos, s.drop (pos + 1)) else none
  else some (s, [])

/-- `c_str()`, as a function of C reads it. -/
def cStr (s : List Char) : List Char := s.takeWhile (· ≠ Char.ofNat 0)

/-- `makeBlankPrefix`. -/
def makeBlankPrefix (fam : IpFam) : Prefix :=
  ⟨fam, 0#32, 0#32, List.replicate 4 0#32, List.replicate 4 0#32⟩

/-- The largest length of a mask. -/
def fullLength (fam : IpFam) : ℕ := if fam = .v6 then 128 else 32

/-- `isMaskValid`; the texts that it leaves in `mLastErr` are overwritten by its caller. -/
def isMaskValid (mask : ℤ) (fam : IpFam) : Bool :=
  if mask < 0 then false
  else if mask = 0 then false
  else if fam = .v4 ∧ 32 < mask then false
  else if fam = .v6 ∧ 128 < mask then false
  else true

/-- `createMask`. -/
def createMask (mask : ℤ) : BitVec 32 :=
  if 32 ≤ mask then ~~~0#32
  else
    forUpTo 32 (fun i (ret : BitVec 32) =>
      if (i : ℤ) < mask then ret <<< 1 ||| 1#32 else ret <<< 1) 0#32

/-- The words of a mask, as many as there are passes of the loop. -/
def maskWords : ℕ → ℤ → List (BitVec 32)
  | 0, _ => []
  | n + 1, mask => createMask mask :: maskWords n (if 32 < mask then mask - 32 else 0)

/-- `populateV4Mask`. -/
def populateV4Mask (mask : ℤ) (out : Prefix) : Option Prefix :=
  if mask < 0 ∨ 32 < mask then none else some { out with v4Mask := createMask mask }

/-- `populateV6Mask`. -/
def populateV6Mask (mask : ℤ) (out : Prefix) : Option Prefix :=
  if mask < 0 ∨ 128 < mask then none else some { out with v6Mask := maskWords 4 mask }

section Parser

variable (libc : Libc)

/-- `parseSubnetMask`. -/
def parseSubnetMask (s : List Char) (fam : IpFam) : ℤ :=
  if s.isEmpty then fullLength fam else libc.atoi (cStr s)

/-- `parseV4Addr`. -/
def parseV4Addr (s : List Char) (out : Prefix) : Option Prefix :=
  (libc.inetPton4 (cStr s)).map fun b =>
    { out with v4Addr := htonl (inMemory (b 0) (b 1) (b 2) (b 3)) }

/-- `parseV6Addr`. -/
def parseV6Addr (s : List Char) (out : Prefix) : Option Prefix :=
  (libc.inetPton6 (cStr s)).map fun b =>
    { out with v6Addr := [joinBytes (b 0) (b 1) (b 2) (b 3), joinBytes (b 4) (b 5) (b 6) (b 7),
        joinBytes (b 8) (b 9) (b 10) (b 11), joinBytes (b 12) (b 13) (b 14) (b 15)] }

/-- A text is refused. -/
def PrefixParser.refuse (a : PrefixParser) (err : List Char) : Bool × PrefixParser :=
  (false, { a with lastErr := err })

/-- The hint, or a guess. -/
def family (s : List Char) (famHint : IpFam) : IpFam :=
  if famHint = .invalid then guessIPFamily s else famHint

/-- `add`. -/
def PrefixParser.add (a : PrefixParser) (s : List Char) (famHint : IpFam) : Bool × PrefixParser :=
  if s.length = 0 then a.refuse "Failed to parse string, length = 0...".toList
  else
    let fam := family s famHint
    match splitIntoAddrAndMask s with
    | none => a.refuse ("Failed to split into Address and Mask(".toList ++ s ++ ")".toList)
    | some (addr, subnet) =>
        let mask := parseSubnetMask libc subnet fam
        if !isMaskValid mask fam then a.refuse "Invalid mask".toList
        else
          let pre := makeBlankPrefix fam
          match if fam = .v4 then parseV4Addr libc addr pre else parseV6Addr libc addr pre with
          | none =>
              a.refuse ((if fam = .v4 then "Failed to parse V4 Address(" else
                "Failed to parse V6 Address(").toList ++ addr ++ ")".toList)
          | some pre =>
              match if fam = .v4 then populateV4Mask mask pre else some pre with
              | none =>
                  a.refuse ("Failed to populate IPv4 Mask(".toList ++ (toString mask).toList ++
                    ", ".toList ++ addr ++ ")".toList)
              | some pre =>
                  match populateV6Mask mask pre with
                  | none =>
                      a.refuse ("Failed to populate IPv6 Mask(".toList ++ (toString mask).toList ++
                        ", ".toList ++ addr ++ ")".toList)
                  | some pre => (true, { a with prefixes := a.prefixes ++ [pre] })

end Parser

/-! ## What a text says -/

/-- An address alone, or with a slash behind it, or with a slash and a length. -/
inductive Denotes {β : Type*} (pton : List Char → Option β) (full : ℕ) : List Char → β → ℕ → Prop
  | bare {addr b} : pton addr = some b → Denotes pton full addr b full
  | slash {addr b} : pton addr = some b → Denotes pton full (addr ++ ['/']) b full
  | length {addr b digits} : pton addr = some b → IsDecimal digits → 1 ≤ decimal digits →
      decimal digits ≤ full → Denotes pton full (addr ++ '/' :: digits) b (decimal digits)

/-- A prefix of version 4, with nothing of version 6. -/
structure IsV4 (p : Prefix) (b : Fin 4 → BitVec 8) (n : ℕ) : Prop where
  fam : p.fam = .v4
  addr : p.v4Addr = word (b 0) (b 1) (b 2) (b 3)
  mask : IsLeading p.v4Mask n
  v6Addr : p.v6Addr = List.replicate 4 0#32
  v6Mask : p.v6Mask = List.replicate 4 0#32

/-- A prefix of version 6, with nothing of version 4. -/
structure IsV6 (p : Prefix) (b : Fin 16 → BitVec 8) (n : ℕ) : Prop where
  fam : p.fam = .v6
  v4Addr : p.v4Addr = 0#32
  v4Mask : p.v4Mask = 0#32
  addr : p.v6Addr = [word (b 0) (b 1) (b 2) (b 3), word (b 4) (b 5) (b 6) (b 7),
    word (b 8) (b 9) (b 10) (b 11), word (b 12) (b 13) (b 14) (b 15)]
  length : p.v6Mask.length = 4
  mask : ∀ (k : ℕ) (w : BitVec 32), p.v6Mask[k]? = some w → IsLeading w (n - 32 * k)

/-- The prefix that a text of an allowed family stands for. -/
def Stands (libc : Libc) (famHint : IpFam) (s : List Char) (p : Prefix) : Prop :=
  (famHint ≠ .v6 ∧ ∃ b n, Denotes libc.inetPton4 32 s b n ∧ IsV4 p b n) ∨
    (famHint ≠ .v4 ∧ ∃ b n, Denotes libc.inetPton6 128 s b n ∧ IsV6 p b n)

/-- `add` accepts just the texts that stand for a prefix, stores that prefix behind the others, and
leaves the prefixes alone when it refuses. -/
structure Right (libc : Libc) (a : PrefixParser) (s : List Char) (famHint : IpFam) : Prop where
  accepts : (a.add libc s famHint).1 = true ↔ ∃ p, Stands libc famHint s p
  stores : (a.add libc s famHint).1 = true →
    ∃ p, Stands libc famHint s p ∧ (a.add libc s famHint).2.prefixes = a.prefixes ++ [p]
  refuses : (a.add libc s famHint).1 = false → (a.add libc s famHint).2.prefixes = a.prefixes

/-! ## Masks -/

/-- No ones. -/
lemma isLeading_of_nonpos {w : BitVec 32} {m n : ℤ} (h : IsLeading w m) (hm : m ≤ 0) (hn : n ≤ 0) :
    IsLeading w n := by
  intro i hi
  rw [h i hi, decide_eq_decide]
  omega

/-- **The loop shifts in a one for each place of the length, then zeros.** -/
lemma createMask_isLeading (mask : ℤ) : IsLeading (createMask mask) mask := by
  intro i hi
  rw [createMask]
  split_ifs with h
  · have hlt : (i : ℤ) < mask := by omega
    rw [BitVec.getMsbD_not]
    simp [hi, hlt]
  · -- after `k` passes the lowest `k` bits are the first `k` of the mask, the last one lowest
    have hloop := forUpTo_invariant (n := 32) (s := 0#32)
      (f := fun i (ret : BitVec 32) => if (i : ℤ) < mask then ret <<< 1 ||| 1#32 else ret <<< 1)
      (P := fun k ret => ∀ t < 32, ret.getLsbD t = decide (t < k ∧ ((k : ℤ) - 1 - t < mask)))
      (by simp) ?_
    · have hplace : ((32 : ℕ) : ℤ) - 1 - ((32 - 1 - i : ℕ) : ℤ) = i := by omega
      rw [BitVec.getMsbD, hloop _ (by omega), hplace]
      simp [hi]
      omega
    · intro k ret hk hret t ht
      cases t with
      | zero => split_ifs <;> simp [*]
      | succ t =>
          have hbefore := hret t (by omega)
          split_ifs <;> simp [ht] <;> grind

lemma maskWords_isLeading {n k : ℕ} {mask : ℤ} {w : BitVec 32}
    (h : (maskWords n mask)[k]? = some w) : IsLeading w (mask - 32 * k) := by
  induction n generalizing k mask with
  | zero => cases h
  | succ n ih =>
      cases k with
      | zero =>
          cases h
          simpa using createMask_isLeading mask
      | succ k =>
          have hw := ih (by simpa [maskWords] using h)
          by_cases hlt : 32 < mask
          · rw [if_pos hlt] at hw
            have heq : mask - 32 * ((k + 1 : ℕ) : ℤ) = mask - 32 - 32 * k := by
              push_cast
              ring
            rw [heq]
            exact hw
          · rw [if_neg hlt] at hw
            exact isLeading_of_nonpos hw (by omega) (by push_cast; omega)

lemma length_maskWords (n : ℕ) (mask : ℤ) : (maskWords n mask).length = n := by
  induction n generalizing mask with
  | zero => rfl
  | succ n ih => rw [maskWords, List.length_cons, ih]

/-- A mask of some length is not blank. -/
lemma maskWords_ne_blank {mask : ℤ} (h : 1 ≤ mask) : maskWords 4 mask ≠ List.replicate 4 0#32 := by
  intro heq
  have hfirst : createMask mask = 0#32 := (List.cons.inj heq).1
  have hbit := createMask_isLeading mask 0 (by omega)
  have hpos : ((0 : ℕ) : ℤ) < mask := by omega
  rw [hfirst, decide_eq_true hpos] at hbit
  simp at hbit

lemma isMaskValid_iff {mask : ℤ} {fam : IpFam} (hfam : fam ≠ .invalid) :
    isMaskValid mask fam = true ↔ 1 ≤ mask ∧ mask ≤ fullLength fam := by
  rw [isMaskValid, fullLength]
  cases fam with
  | invalid => exact absurd rfl hfam
  | _ => grind

/-! ## Splitting -/

section Split

variable {s addr mask : List Char}

lemma split_of_not_mem (h : '/' ∉ s) : splitIntoAddrAndMask s = some (s, []) := by
  rw [splitIntoAddrAndMask, if_neg h]

lemma split_append (h : '/' ∉ addr) (hne : addr ≠ []) :
    splitIntoAddrAndMask (addr ++ '/' :: mask) = some (addr, mask) := by
  have hpos : (addr ++ '/' :: mask).idxOf '/' = addr.length := by
    rw [List.idxOf_append_of_notMem h, List.idxOf_cons_self, Nat.add_zero]
  have hlength : 1 ≤ addr.length := List.length_pos_iff.mpr hne
  rw [splitIntoAddrAndMask, if_pos (by simp)]
  simp [hpos, hlength]

/-- A text splits at its first slash. -/
lemma split_eq_some_iff : splitIntoAddrAndMask s = some (addr, mask) ↔
    ('/' ∉ s ∧ addr = s ∧ mask = []) ∨ ('/' ∉ addr ∧ addr ≠ [] ∧ s = addr ++ '/' :: mask) := by
  constructor
  · intro h
    by_cases hs : '/' ∈ s
    · obtain ⟨front, back, rfl, hfront⟩ := List.eq_append_cons_of_mem hs
      cases front with
      | nil =>
          rw [List.nil_append, splitIntoAddrAndMask, if_pos (by simp)] at h
          simp at h
      | cons c front =>
          rw [split_append hfront (List.cons_ne_nil _ _), Option.some.injEq, Prod.mk.injEq] at h
          obtain ⟨rfl, rfl⟩ := h
          exact Or.inr ⟨hfront, List.cons_ne_nil _ _, rfl⟩
    · rw [split_of_not_mem hs, Option.some.injEq, Prod.mk.injEq] at h
      exact Or.inl ⟨hs, h.1.symm, h.2.symm⟩
  · rintro (⟨hs, rfl, rfl⟩ | ⟨hs, hne, rfl⟩)
    · exact split_of_not_mem hs
    · exact split_append hs hne

lemma cStr_eq (h : Char.ofNat 0 ∉ s) : cStr s = s :=
  List.takeWhile_eq_self_iff.mpr fun c hc => by
    rw [decide_eq_true_iff]
    exact ne_of_mem_of_not_mem hc h

end Split

/-! ## Denotations, by parts -/

/-- The length that a text behind the slash gives. -/
def LengthIs (full : ℕ) (mask : List Char) (n : ℕ) : Prop :=
  (mask = [] ∧ n = full) ∨ (IsDecimal mask ∧ n = decimal mask ∧ 1 ≤ n ∧ n ≤ full)

section Denotes

variable {β : Type*} {pton : List Char → Option β} {full n : ℕ} {s addr mask : List Char} {b : β}
  {libc : Libc}

/-- **A text denotes what its two parts say.** -/
lemma denotes_iff (hpton : ∀ {addr b}, pton addr = some b → '/' ∉ addr ∧ addr ≠ []) :
    Denotes pton full s b n ↔ ∃ addr mask, splitIntoAddrAndMask s = some (addr, mask) ∧
      pton addr = some b ∧ LengthIs full mask n := by
  constructor
  · intro h
    cases h with
    | bare h => exact ⟨s, [], split_of_not_mem (hpton h).1, h, Or.inl ⟨rfl, rfl⟩⟩
    | @slash addr _ h =>
        exact ⟨addr, [], split_append (hpton h).1 (hpton h).2, h, Or.inl ⟨rfl, rfl⟩⟩
    | @length addr _ digits h hdec h1 hfull =>
        exact ⟨addr, digits, split_append (hpton h).1 (hpton h).2, h, Or.inr ⟨hdec, rfl, h1, hfull⟩⟩
  · rintro ⟨addr, mask, hsplit, h, hlength⟩
    rcases split_eq_some_iff.mp hsplit with ⟨-, rfl, rfl⟩ | ⟨-, -, rfl⟩
    · rcases hlength with ⟨-, rfl⟩ | ⟨hdec, -⟩
      · exact .bare h
      · exact absurd rfl hdec.1
    · rcases hlength with ⟨rfl, rfl⟩ | ⟨hdec, rfl, h1, hfull⟩
      · exact .slash h
      · exact .length h hdec h1 hfull

lemma IsDecimal.not_mem {c : Char} (h : IsDecimal s) (hc : c.isDigit = false) : c ∉ s := by
  intro hmem
  rw [h.2 c hmem] at hc
  cases hc

lemma LengthIs.not_mem {c : Char} (h : LengthIs full mask n) (hc : c.isDigit = false) :
    c ∉ mask := by
  rcases h with ⟨rfl, -⟩ | ⟨hdec, -⟩
  · exact List.not_mem_nil
  · exact IsDecimal.not_mem hdec hc

/-- The number of a decimal text is read by `atoi`. -/
lemma atoi_decimal (h : IsDecimal mask) (hlt : decimal mask < 2 ^ 31) :
    libc.atoi (cStr mask) = decimal mask := by
  have hstrtol : CString.strtol 10 mask = decimal mask := by
    rw [strtol_decimal h]
    omega
  rw [cStr_eq (IsDecimal.not_mem h (by decide)), libc.atoi_eq (by omega) (by omega), hstrtol]

/-- A length that is given is the one that the parser reads. -/
lemma LengthIs.parse {fam : IpFam} (h : LengthIs (fullLength fam) mask n) :
    parseSubnetMask libc mask fam = n := by
  have hfull : fullLength fam ≤ 128 := by
    rw [fullLength]
    split_ifs <;> omega
  rcases h with ⟨rfl, rfl⟩ | ⟨hdec, rfl, -, hle⟩
  · rfl
  · have hempty : mask.isEmpty = false := by
      rw [List.isEmpty_eq_false_iff]
      exact hdec.1
    rw [parseSubnetMask, hempty, if_neg Bool.false_ne_true, atoi_decimal hdec (by omega)]

lemma LengthIs.valid {fam : IpFam} (hfam : fam ≠ .invalid) (h : LengthIs (fullLength fam) mask n) :
    isMaskValid n fam = true := by
  rw [isMaskValid_iff hfam]
  rcases h with ⟨-, rfl⟩ | ⟨-, -, h1, hle⟩
  · rw [fullLength]
    split_ifs <;> omega
  · omega

end Denotes

/-! ## What is accepted -/

section Add

variable {libc : Libc} {a : PrefixParser} {s addr mask : List Char} {fam famHint : IpFam}

/-- The address is one for `inet_pton`. -/
def addressOk (libc : Libc) (fam : IpFam) (addr : List Char) : Bool :=
  if fam = .v4 then (libc.inetPton4 (cStr addr)).isSome else (libc.inetPton6 (cStr addr)).isSome

/-- The text is split in two, and neither part is objected to. -/
def Readable (libc : Libc) (fam : IpFam) (s : List Char) : Prop :=
  ∃ parts ∈ splitIntoAddrAndMask s,
    isMaskValid (parseSubnetMask libc parts.2 fam) fam = true ∧ addressOk libc fam parts.1 = true

/-- No part has anything behind what is read of it. -/
def Clean (libc : Libc) (s : List Char) : Prop :=
  ∀ parts ∈ splitIntoAddrAndMask s, Char.ofNat 0 ∉ parts.1 ∧
    (parts.2 = [] ∨ IsDecimal parts.2 ∧ (decimal parts.2 : ℤ) = libc.atoi (cStr parts.2))

lemma family_ne_invalid : family s famHint ≠ .invalid := by
  rw [family, guessIPFamily]
  split_ifs with h <;> simp [h]

lemma ne_nil_of_split (h : splitIntoAddrAndMask s = some (addr, mask)) (haddr : addr ≠ []) :
    s.length ≠ 0 := by
  rw [List.length_eq_zero_iff.ne]
  rintro rfl
  rcases split_eq_some_iff.mp h with ⟨-, rfl, -⟩ | ⟨-, -, hcons⟩
  · exact haddr rfl
  · simp at hcons

/-- A text that one of the parts objects to is refused. -/
lemma add_refuses (h : ¬Readable libc (family s famHint) s) :
    (a.add libc s famHint).1 = false ∧ (a.add libc s famHint).2.prefixes = a.prefixes := by
  rw [PrefixParser.add]
  split_ifs with hempty
  · exact ⟨rfl, rfl⟩
  dsimp only
  cases hsplit : splitIntoAddrAndMask s with
  | none => exact ⟨rfl, rfl⟩
  | some parts =>
      dsimp only
      by_cases hvalid :
          isMaskValid (parseSubnetMask libc parts.2 (family s famHint)) (family s famHint) = true
      · have haddr : addressOk libc (family s famHint) parts.1 = false :=
          Bool.eq_false_iff.mpr fun haddr => h ⟨parts, hsplit, hvalid, haddr⟩
        have hnone : (if family s famHint = .v4 then
            parseV4Addr libc parts.1 (makeBlankPrefix (family s famHint))
            else parseV6Addr libc parts.1 (makeBlankPrefix (family s famHint))) = none := by
          rw [addressOk] at haddr
          split_ifs at haddr ⊢
          · rw [parseV4Addr, Option.isSome_eq_false_iff.mp haddr |> Option.isNone_iff_eq_none.mp,
              Option.map_none]
          · rw [parseV6Addr, Option.isSome_eq_false_iff.mp haddr |> Option.isNone_iff_eq_none.mp,
              Option.map_none]
        rw [hvalid, Bool.not_true, if_neg Bool.false_ne_true, hnone]
        exact ⟨rfl, rfl⟩
      · rw [Bool.not_eq_true] at hvalid
        rw [hvalid]
        exact ⟨rfl, rfl⟩

/-- **What becomes of an address of version 4**: its address and mask are right, and then the mask
of version 6 is filled in as well. -/
lemma add_v4_accepts {b : Fin 4 → BitVec 8} (hfam : family s famHint = .v4)
    (hsplit : splitIntoAddrAndMask s = some (addr, mask)) (hs : s.length ≠ 0)
    (hvalid : isMaskValid (parseSubnetMask libc mask .v4) .v4 = true)
    (haddr : libc.inetPton4 (cStr addr) = some b) :
    a.add libc s famHint = (true, { a with prefixes := a.prefixes ++ [
      { makeBlankPrefix .v4 with
        v4Addr := word (b 0) (b 1) (b 2) (b 3)
        v4Mask := createMask (parseSubnetMask libc mask .v4)
        v6Mask := maskWords 4 (parseSubnetMask libc mask .v4) }] }) := by
  have hrange := (isMaskValid_iff (by simp)).mp hvalid
  have hfull : fullLength .v4 = 32 := rfl
  rw [hfull] at hrange
  rw [PrefixParser.add, if_neg hs]
  simp only [hfam, hsplit, hvalid, parseV4Addr, haddr, if_pos, Option.map_some, Bool.not_true,
    Bool.false_eq_true, if_false]
  rw [populateV4Mask, if_neg (by omega)]
  dsimp only
  rw [populateV6Mask, if_neg (by omega), htonl_inMemory]

/-- What becomes of an address of version 6. -/
lemma add_v6_accepts {b : Fin 16 → BitVec 8} (hfam : family s famHint = .v6)
    (hsplit : splitIntoAddrAndMask s = some (addr, mask)) (hs : s.length ≠ 0)
    (hvalid : isMaskValid (parseSubnetMask libc mask .v6) .v6 = true)
    (haddr : libc.inetPton6 (cStr addr) = some b) :
    ∃ p, a.add libc s famHint = (true, { a with prefixes := a.prefixes ++ [p] }) ∧
      IsV6 p b (parseSubnetMask libc mask .v6).toNat := by
  have hrange := (isMaskValid_iff (by simp)).mp hvalid
  have hfull : fullLength .v6 = 128 := rfl
  have hnat : ((parseSubnetMask libc mask .v6).toNat : ℤ) = parseSubnetMask libc mask .v6 :=
    Int.toNat_of_nonneg (by omega)
  rw [hfull] at hrange
  rw [PrefixParser.add, if_neg hs]
  simp only [hfam, hsplit, hvalid, parseV6Addr, haddr, Option.map_some, Bool.not_true,
    Bool.false_eq_true, if_false, reduceCtorEq]
  rw [populateV6Mask, if_neg (by omega)]
  refine ⟨_, rfl, rfl, rfl, rfl, ?_, length_maskWords _ _, fun k w hw => ?_⟩
  · simp only [joinBytes_eq]
  · rw [hnat]
    exact maskWords_isLeading hw

/-! ## When it is right -/

lemma pton4_parts {b : Fin 4 → BitVec 8} (h : libc.inetPton4 addr = some b) :
    '/' ∉ addr ∧ addr ≠ [] :=
  ⟨Libc.not_mem_of_pton4 h (by decide) (by decide), (libc.pton4_chars h).1⟩

lemma pton6_parts {b : Fin 16 → BitVec 8} (h : libc.inetPton6 addr = some b) :
    '/' ∉ addr ∧ addr ≠ [] :=
  ⟨Libc.not_mem_of_pton6 h (by decide) (by decide) (by decide),
    List.ne_nil_of_mem (libc.pton6_chars h).1⟩

/-- Where a character of a text is that splits. -/
lemma mem_of_split {c : Char} (h : splitIntoAddrAndMask s = some (addr, mask)) (hc : c ≠ '/') :
    c ∈ s ↔ c ∈ addr ∨ c ∈ mask := by
  rcases split_eq_some_iff.mp h with ⟨-, rfl, rfl⟩ | ⟨-, -, rfl⟩
  · simp
  · simp [hc]

/-- A text that denotes an address of version 4 has no colon. -/
lemma colon_of_v4 {b : Fin 4 → BitVec 8} {n : ℕ} (h : Denotes libc.inetPton4 32 s b n) :
    ':' ∉ s := by
  obtain ⟨addr, mask, hsplit, haddr, hlength⟩ := (denotes_iff pton4_parts).mp h
  rw [mem_of_split hsplit (by decide)]
  rintro (hc | hc)
  · exact Libc.not_mem_of_pton4 haddr (by decide) (by decide) hc
  · exact hlength.not_mem (by decide) hc

lemma colon_of_v6 {b : Fin 16 → BitVec 8} {n : ℕ} (h : Denotes libc.inetPton6 128 s b n) :
    ':' ∈ s := by
  obtain ⟨addr, mask, hsplit, haddr, -⟩ := (denotes_iff pton6_parts).mp h
  rw [mem_of_split hsplit (by decide)]
  exact Or.inl (libc.pton6_chars haddr).1

/-- What a text stands for is of the family that the parser takes it for. -/
lemma Stands.of_v4 {p : Prefix} (hfam : family s famHint = .v4) (h : Stands libc famHint s p) :
    ∃ b n, Denotes libc.inetPton4 32 s b n ∧ IsV4 p b n := by
  rcases h with ⟨-, h⟩ | ⟨hhint, b, n, hden, -⟩
  · exact h
  · have hcolon := colon_of_v6 hden
    rw [family, guessIPFamily] at hfam
    split_ifs at hfam
    exact absurd hfam hhint

lemma Stands.of_v6 {p : Prefix} (hfam : family s famHint = .v6) (h : Stands libc famHint s p) :
    ∃ b n, Denotes libc.inetPton6 128 s b n ∧ IsV6 p b n := by
  rcases h with ⟨hhint, b, n, hden, -⟩ | ⟨-, h⟩
  · have hcolon := colon_of_v4 hden
    rw [family, guessIPFamily] at hfam
    split_ifs at hfam
    exact absurd hfam hhint
  · exact h

/-- What a text stands for, the parser can read. -/
lemma Stands.readable {p : Prefix} (h : Stands libc famHint s p) :
    Readable libc (family s famHint) s := by
  cases hfam : family s famHint with
  | invalid => exact absurd hfam family_ne_invalid
  | v4 =>
      obtain ⟨b, n, hden, -⟩ := h.of_v4 hfam
      obtain ⟨addr, mask, hsplit, haddr, hlength⟩ := (denotes_iff pton4_parts).mp hden
      have hlen : LengthIs (fullLength .v4) mask n := hlength
      refine ⟨(addr, mask), hsplit, ?_, ?_⟩
      · rw [hlen.parse]
        exact hlen.valid (by simp)
      · have hnul := Libc.not_mem_of_pton4 (c := Char.ofNat 0) haddr (by decide) (by decide)
        rw [addressOk, if_pos rfl, cStr_eq hnul, haddr]
        rfl
  | v6 =>
      obtain ⟨b, n, hden, -⟩ := h.of_v6 hfam
      obtain ⟨addr, mask, hsplit, haddr, hlength⟩ := (denotes_iff pton6_parts).mp hden
      have hlen : LengthIs (fullLength .v6) mask n := hlength
      refine ⟨(addr, mask), hsplit, ?_, ?_⟩
      · rw [hlen.parse]
        exact hlen.valid (by simp)
      · have hnul := Libc.not_mem_of_pton6 (c := Char.ofNat 0) haddr (by decide) (by decide)
          (by decide)
        rw [addressOk, if_neg (by simp), cStr_eq hnul, haddr]
        rfl

/-- A text that is refused is refused rightly. -/
lemma right_of_not_readable (h : ¬Readable libc (family s famHint) s) : Right libc a s famHint := by
  obtain ⟨hfst, hsnd⟩ := add_refuses (a := a) h
  refine ⟨iff_of_false (by rw [hfst]; simp) ?_, fun hacc => ?_, fun _ => hsnd⟩
  · rintro ⟨p, hp⟩
    exact h hp.readable
  · rw [hfst] at hacc
    cases hacc

/-- A text that is accepted as one of version 4 is not stored as it should be. -/
lemma not_right_v4 (hfam : family s famHint = .v4) (h : Readable libc .v4 s) :
    ¬Right libc a s famHint := by
  obtain ⟨⟨addr, mask⟩, hsplit, hvalid, haddr⟩ := h
  rw [addressOk, if_pos rfl, Option.isSome_iff_exists] at haddr
  obtain ⟨b, hb⟩ := haddr
  intro hright
  have hne : addr ≠ [] := by
    rintro rfl
    exact (libc.pton4_chars hb).1 rfl
  have hadd := add_v4_accepts (a := a) hfam hsplit (ne_nil_of_split hsplit hne) hvalid hb
  obtain ⟨p, hp, hstored⟩ := hright.stores (by rw [hadd])
  rw [hadd, List.append_right_inj, List.singleton_inj] at hstored
  obtain ⟨b', n, -, hv4⟩ := hp.of_v4 hfam
  have hmask := hv4.v6Mask
  rw [← hstored] at hmask
  exact maskWords_ne_blank ((isMaskValid_iff (by simp)).mp hvalid).1 hmask

/-- A text that is accepted as one of version 6 is right if nothing is left of its parts. -/
lemma right_v6_iff (hfam : family s famHint = .v6) (h : Readable libc .v6 s) :
    Right libc a s famHint ↔ Clean libc s := by
  obtain ⟨⟨addr, mask⟩, hsplit, hvalid, haddr⟩ := h
  dsimp only at hvalid haddr
  rw [addressOk, if_neg (by simp), Option.isSome_iff_exists] at haddr
  obtain ⟨b, hb⟩ := haddr
  have hne : addr ≠ [] := by
    rintro rfl
    exact List.not_mem_nil (libc.pton6_chars hb).1
  obtain ⟨p, hadd, hv6⟩ :=
    add_v6_accepts (a := a) hfam hsplit (ne_nil_of_split hsplit hne) hvalid hb
  have hrange := (isMaskValid_iff (by simp)).mp hvalid
  have hfull : fullLength .v6 = 128 := rfl
  rw [hfull] at hrange
  constructor
  · intro hright parts hparts
    rw [hsplit, Option.mem_def, Option.some.injEq] at hparts
    subst hparts
    obtain ⟨p', hp', -⟩ := hright.stores (by rw [hadd])
    obtain ⟨b', n, hden, -⟩ := hp'.of_v6 hfam
    obtain ⟨addr', mask', hsplit', haddr', hlength⟩ := (denotes_iff pton6_parts).mp hden
    rw [hsplit, Option.some.injEq, Prod.mk.injEq] at hsplit'
    obtain ⟨rfl, rfl⟩ := hsplit'
    refine ⟨Libc.not_mem_of_pton6 haddr' (by decide) (by decide) (by decide), ?_⟩
    rcases hlength with ⟨hnil, -⟩ | ⟨hdec, rfl, -, hle⟩
    · exact Or.inl hnil
    · exact Or.inr ⟨hdec, (atoi_decimal hdec (by omega)).symm⟩
  · intro hclean
    obtain ⟨hnul, hnumber⟩ := hclean _ hsplit
    have hlength : LengthIs 128 mask (parseSubnetMask libc mask .v6).toNat := by
      rcases hnumber with rfl | ⟨hdec, hatoi⟩
      · exact Or.inl ⟨rfl, rfl⟩
      · dsimp only at hatoi
        have hempty : mask.isEmpty = false := by
          rw [List.isEmpty_eq_false_iff]
          exact hdec.1
        rw [parseSubnetMask, hempty, if_neg Bool.false_ne_true] at hrange ⊢
        exact Or.inr ⟨hdec, by omega, by omega, by omega⟩
    rw [cStr_eq hnul] at hb
    have hhint : famHint ≠ .v4 := by
      rintro rfl
      cases hfam
    have hstands : Stands libc famHint s p :=
      Or.inr ⟨hhint, b, _, (denotes_iff pton6_parts).mpr ⟨addr, mask, hsplit, hb, hlength⟩, hv6⟩
    refine ⟨iff_of_true (by rw [hadd]) ⟨p, hstands⟩, fun _ => ⟨p, hstands, by rw [hadd]⟩, ?_⟩
    intro hrefused
    rw [hadd] at hrefused
    cases hrefused

end Add

/-- **When `add` is right.**  For every text, every hint and every parser: the text is treated as it
should be exactly if it is refused because of its number or its address, or is one of version 6
whose address has no NUL and whose number, if there is any, is made of digits and is the one that
`atoi` gives. -/
theorem add_right_iff (libc : Libc) (a : PrefixParser) (s : List Char) (famHint : IpFam) :
    Right libc a s famHint ↔
      (Readable libc (family s famHint) s → family s famHint = .v6 ∧ Clean libc s) := by
  by_cases h : Readable libc (family s famHint) s
  · rw [imp_iff_right h]
    cases hfam : family s famHint with
    | invalid => exact absurd hfam family_ne_invalid
    | v4 =>
        rw [hfam] at h
        exact iff_of_false (not_right_v4 hfam h) fun hv6 => by cases hv6.1
    | v6 =>
        rw [hfam] at h
        rw [right_v6_iff hfam h, and_iff_right rfl]
  · exact iff_of_true (right_of_not_readable h) fun hread => absurd hread h

/-! ## A text of version 4 -/

/-- The text of an address. -/
def routerText : List Char := ['1', '9', '2', '.', '1', '6', '8', '.', '1', '.', '1']

lemma routerText_chars : ∀ c ∈ routerText, c.isDigit ∨ c = '.' := by
  simp only [routerText, List.forall_mem_cons]
  simp

/-- A library that knows this one address. -/
def oneAddress : Libc where
  inetPton4 s := if s = routerText then some ![192#8, 168#8, 1#8, 1#8] else none
  inetPton6 _ := none
  atoi := CString.atoi
  pton4_chars {s b} h := by
    split_ifs at h with hs
    exact hs ▸ ⟨List.cons_ne_nil _ _, routerText_chars⟩
  pton6_chars h := by cases h
  atoi_eq {s} h h' := by
    rw [CString.atoi]
    exact Int.bmod_eq_of_le (by omega) (by omega)

/-- The address with a length of 24 is stored with bits of a mask of version 6. -/
theorem v4_prefix_gets_v6_mask :
    (PrefixParser.init.add oneAddress (routerText ++ "/24".toList) .v4).1 = true ∧
      (PrefixParser.init.add oneAddress (routerText ++ "/24".toList) .v4).2.prefixes =
        [⟨.v4, 0xC0A80101#32, 0xFFFFFF00#32, List.replicate 4 0#32,
          [0xFFFFFF00#32, 0#32, 0#32, 0#32]⟩] ∧
      ¬Right oneAddress PrefixParser.init (routerText ++ "/24".toList) .v4 := by
  have hread : Readable oneAddress .v4 (routerText ++ "/24".toList) :=
    ⟨(routerText, "24".toList), by decide +kernel, by decide +kernel, by decide +kernel⟩
  exact ⟨by decide +kernel, by decide +kernel, not_right_v4 rfl hread⟩

end IpaCfg
