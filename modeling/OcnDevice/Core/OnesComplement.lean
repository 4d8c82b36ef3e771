import Mathlib

/-!
# Checksums in one's complement

The Internet checksum of a list of 16-bit words is the complement of their sum in one's complement
arithmetic, where a carry out of the word is added back in.  `endAround n` is the word that such a
sum comes to, whatever the order of the additions and of the carries, when the words add up to `n` as
numbers; there are two words for zero, and zero itself is only the sum of words that are all zero.

`Accepts.update` is the reason why a checksum may be updated when some words of a packet
change, without looking at the others.
-/

namespace OnesComplement

/-- The word that a sum comes to when carries are added back in. -/
def endAround (n : ℕ) : ℕ := if n = 0 then 0 else (n - 1) % 65535 + 1

section EndAround

variable {m n : ℕ}

lemma endAround_le (n : ℕ) : endAround n ≤ 65535 := by
  unfold endAround
  split_ifs <;> omega

/-- A word stands for itself. -/
lemma endAround_of_le (h : n ≤ 65535) : endAround n = n := by
  unfold endAround
  split_ifs <;> omega

/-- One carry. -/
lemma endAround_of_lt (h : 65535 < n) (h' : n ≤ 131070) : endAround n = n - 65535 := by
  unfold endAround
  split_ifs <;> omega

lemma endAround_modEq (n : ℕ) : endAround n ≡ n [MOD 65535] := by
  unfold Nat.ModEq
  by_cases hn : n = 0
  · rw [hn, endAround_of_le (Nat.zero_le _)]
  · rw [endAround, if_neg hn]
    omega

/-- Carries may be added back in at any time. -/
lemma endAround_add (m n : ℕ) : endAround (endAround m + n) = endAround (m + n) := by
  by_cases hm : m = 0
  · rw [hm, endAround_of_le (Nat.zero_le _)]
  · have hfold : endAround m = (m - 1) % 65535 + 1 := if_neg hm
    rw [hfold, endAround, if_neg (by omega), endAround, if_neg (by omega)]
    omega

/-- A sum comes to all ones if and only if it is a multiple of all ones other than zero. -/
lemma endAround_eq_ones : endAround n = 65535 ↔ n ≠ 0 ∧ n ≡ 0 [MOD 65535] := by
  unfold Nat.ModEq
  by_cases hn : n = 0
  · rw [hn, endAround_of_le (Nat.zero_le _)]
    omega
  · rw [endAround, if_neg hn]
    omega

end EndAround

/-! ## Checksums -/

/-- Addition in one's complement. -/
def onesAdd (a b : UInt16) : UInt16 := UInt16.ofNat (endAround (a.toNat + b.toNat))

lemma toNat_onesAdd (a b : UInt16) : (onesAdd a b).toNat = endAround (a.toNat + b.toNat) := by
  have hle := endAround_le (a.toNat + b.toNat)
  rw [onesAdd, UInt16.toNat_ofNat', Nat.mod_eq_of_lt (by omega)]

lemma toNat_compl (a : UInt16) : (~~~ a).toNat = 65535 - a.toNat := by
  rw [UInt16.toNat_not]
  rfl

/-- The receiver's check: together with the checksum, the words of a packet come to all ones.  Here the
words add up to `n`. -/
def Accepts (n : ℕ) (checksum : UInt16) : Prop := endAround (n + checksum.toNat) = 65535

instance (n : ℕ) (checksum : UInt16) : Decidable (Accepts n checksum) :=
  inferInstanceAs (Decidable (_ = _))

/-- The update of a checksum when the words of the packet change by `delta`: the complement of the
sum of the complement and `delta`. -/
def incrementalUpdate (checksum delta : UInt16) : UInt16 := ~~~ (onesAdd (~~~ checksum) delta)

/-- **An updated checksum is accepted** if the old one was, when `delta` is what the sum of the words
has changed by, up to carries, and some word is not zero. -/
theorem Accepts.update {n n' : ℕ} {checksum delta : UInt16} (h : Accepts n checksum)
    (hdelta : n' ≡ n + delta.toNat [MOD 65535]) (hn' : n' ≠ 0) :
    Accepts n' (incrementalUpdate checksum delta) := by
  have hc : checksum.toNat < 65536 := checksum.toNat_lt
  have hle := endAround_le (65535 - checksum.toNat + delta.toNat)
  have hnew : (incrementalUpdate checksum delta).toNat =
      65535 - endAround (65535 - checksum.toNat + delta.toNat) := by
    rw [incrementalUpdate, toNat_compl, toNat_onesAdd, toNat_compl]
  have hmod := endAround_modEq (65535 - checksum.toNat + delta.toNat)
  have hold := (endAround_eq_ones.mp h).2
  rw [Accepts, hnew, endAround_eq_ones]
  refine ⟨by omega, ?_⟩
  unfold Nat.ModEq at hdelta hmod hold ⊢
  omega

end OnesComplement
