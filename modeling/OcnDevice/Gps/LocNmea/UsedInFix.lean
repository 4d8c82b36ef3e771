import OcnDevice.Gps.LocNmea.Model

/-!
# Satellites used in the fix

`reportSv` sets the flag of a satellite when the mask of its constellation shares a bit with an
`int` that has been shifted and is then extended with its sign.  For the ids up to 31 this is the
bit of the satellite; for 32 it is this bit and all above; and beyond, the shift is not defined.
The flag is set only and never cleared, so what the report came with stays.

* `and_ne_zero_iff` — two words have a bit in common.
* `getLsbD_bit` — the bits of the shifted and extended `int`.
* `reportOne_used` — the flag after a pass of the loop.
-/

namespace Gps.LocNmea

/-! ## Words -/

lemma and_ne_zero_iff {m s : BitVec 64} :
    m &&& s ≠ 0 ↔ ∃ i < 64, m.getLsbD i = true ∧ s.getLsbD i = true := by
  constructor
  · intro h
    by_contra hnone
    push Not at hnone
    refine h (BitVec.eq_of_getLsbD_eq fun i hi => ?_)
    rw [BitVec.getLsbD_and]
    cases hm : m.getLsbD i with
    | false => simp
    | true =>
        have hs := hnone i hi hm
        simp [hs]
  · rintro ⟨i, -, hm, hs⟩ h
    have hbit := congrArg (BitVec.getLsbD · i) h
    simp [hm, hs] at hbit

/-- A bit that is shifted to its place keeps it, and the highest one is the sign. -/
lemma getLsbD_bit {k i : ℕ} (hk : k < 32) (hi : i < 64) :
    ((1#32 <<< k).signExtend 64).getLsbD i = decide (i = k ∨ (k = 31 ∧ 31 ≤ i)) := by
  have hone : ∀ j < 32, (1#32 <<< k).getLsbD j = decide (j = k) := by
    intro j hj
    rw [BitVec.getLsbD_shiftLeft, BitVec.getLsbD_one]
    grind
  rw [BitVec.getLsbD_signExtend, BitVec.msb_eq_getLsbD_last, hone (32 - 1) (by omega)]
  by_cases h : i < 32
  · rw [if_pos h, hone i h]
    grind
  · rw [if_neg h]
    grind

/-! ## The flag -/

section Flag

variable {wild : ℤ → BitVec 32} {a : GnssAdapter} {sv : GnssSv}

lemma used_of_or {m : BitVec 16} : (m ||| usedInFixBit) &&& usedInFixBit = usedInFixBit := by
  refine BitVec.eq_of_getLsbD_eq fun i hi => ?_
  rw [BitVec.getLsbD_and, BitVec.getLsbD_or]
  cases m.getLsbD i <;> simp

/-- **A satellite is flagged that was flagged before, or whose mask meets the shifted bit.** -/
lemma reportOne_used : (a.reportOne wild sv).used = true ↔ sv.used = true ∨
    a.svUsedIdMask sv.type &&& (shiftOne wild (sv.svId.toInt - 1)).signExtend 64 ≠ 0 := by
  have hqzss : (if sv.type = .qzss then
      { sv with svId := sv.svId + (qzssSvPrnMin - 1) } else sv).gnssSvOptionsMask =
        sv.gnssSvOptionsMask := by
    split_ifs <;> rfl
  rw [GnssAdapter.reportOne]
  by_cases hmask : a.svUsedIdMask sv.type &&&
      (shiftOne wild (sv.svId.toInt - 1)).signExtend 64 ≠ 0
  · refine iff_of_true ?_ (Or.inr hmask)
    rw [if_pos hmask]
    exact decide_eq_true used_of_or
  · rw [if_neg hmask, or_iff_left hmask, GnssSv.used, hqzss]
    rfl

lemma toInt_svId (h : sv.svId.toNat ≤ 64) : sv.svId.toInt = sv.svId.toNat :=
  BitVec.toInt_eq_toNat_of_lt (by omega)

/-- A shift that is defined meets the mask in the bit of the satellite, and for the id 32 also in
any bit above. -/
lemma meets_iff (wild : ℤ → BitVec 32) {m : BitVec 64} (h1 : 1 ≤ sv.svId.toNat)
    (h32 : sv.svId.toNat ≤ 32) :
    m &&& (shiftOne wild (sv.svId.toInt - 1)).signExtend 64 ≠ 0 ↔
      m.getLsbD (sv.svId.toNat - 1) = true ∨
        (sv.svId.toNat = 32 ∧ ∃ i, 32 ≤ i ∧ m.getLsbD i = true) := by
  have hdist : sv.svId.toInt - 1 = ((sv.svId.toNat - 1 : ℕ) : ℤ) := by
    rw [toInt_svId (by omega)]
    omega
  rw [and_ne_zero_iff, hdist, shiftOne, if_pos (by omega), Int.toNat_natCast]
  constructor
  · rintro ⟨i, hi, hm, hbit⟩
    rw [getLsbD_bit (by omega) hi, decide_eq_true_iff] at hbit
    rcases hbit with rfl | ⟨h31, hle⟩
    · exact Or.inl hm
    · rcases hle.eq_or_lt with rfl | hlt
      · rw [h31]
        exact Or.inl hm
      · exact Or.inr ⟨by omega, i, hlt, hm⟩
  · rintro (hm | ⟨h, i, hi, hm⟩)
    · exact ⟨_, by omega, hm, by rw [getLsbD_bit (by omega) (by omega)]; simp⟩
    · have hi64 : i < 64 := BitVec.lt_of_getLsbD hm
      refine ⟨i, hi64, hm, ?_⟩
      rw [getLsbD_bit (by omega) hi64, decide_eq_true_iff]
      exact Or.inr ⟨by omega, by omega⟩

/-- Behind the width any word may come out of the shift. -/
lemma shiftOne_of_ge (h33 : 33 ≤ sv.svId.toNat) (h64 : sv.svId.toNat ≤ 64) :
    shiftOne wild (sv.svId.toInt - 1) = wild (sv.svId.toInt - 1) := by
  rw [shiftOne, if_neg]
  rw [toInt_svId h64]
  omega

/-! ## When the flag is right -/

/-- The bit of the satellite in the mask of its constellation. -/
def GnssAdapter.inMask (a : GnssAdapter) (sv : GnssSv) : Bool :=
  (a.svUsedIdMask sv.type).getLsbD (sv.svId.toNat - 1)

/-- What the report came with is what the mask says, or can be made so: a flag that is set has its
bit, and one that is clear has an id up to 31, or the id 32 with its bit or none above, or an empty
mask. -/
def GnssAdapter.Settled (a : GnssAdapter) (sv : GnssSv) : Prop :=
  if sv.used then a.inMask sv = true
  else sv.svId.toNat ≤ 31 ∨
    (sv.svId.toNat = 32 ∧ (a.inMask sv = true ∨
      ∀ i, 32 ≤ i → (a.svUsedIdMask sv.type).getLsbD i = false)) ∨
    a.svUsedIdMask sv.type = 0

/-- An id that the shift is defined for. -/
lemma meets_iff_inMask (wild : ℤ → BitVec 32) (h1 : 1 ≤ sv.svId.toNat)
    (h32 : sv.svId.toNat ≤ 32) :
    (a.svUsedIdMask sv.type &&& (shiftOne wild (sv.svId.toInt - 1)).signExtend 64 ≠ 0 ↔
      a.inMask sv = true) ↔
        sv.svId.toNat ≤ 31 ∨ (sv.svId.toNat = 32 ∧ (a.inMask sv = true ∨
          ∀ i, 32 ≤ i → (a.svUsedIdMask sv.type).getLsbD i = false)) := by
  rw [meets_iff wild h1 h32]
  change (a.inMask sv = true ∨ _ ↔ a.inMask sv = true) ↔ _
  by_cases hbit : a.inMask sv = true
  · simp [hbit]
    omega
  · simp only [hbit, Bool.false_eq_true, false_or, iff_false]
    by_cases h : sv.svId.toNat = 32
    · simp [h]
    · simp only [h, false_and, not_false_eq_true, true_iff, or_false]
      omega

/-- An id behind the width: no bit of the shifted `int` may be set, and all may be. -/
lemma meets_wild_iff (h33 : 33 ≤ sv.svId.toNat) (h64 : sv.svId.toNat ≤ 64) :
    (∀ wild, (a.svUsedIdMask sv.type &&&
      (shiftOne wild (sv.svId.toInt - 1)).signExtend 64 ≠ 0 ↔ a.inMask sv = true)) ↔
        a.svUsedIdMask sv.type = 0 := by
  simp only [shiftOne_of_ge h33 h64]
  constructor
  · intro hall
    have hnone := hall fun _ => 0
    have hfull := hall fun _ => BitVec.allOnes 32
    rw [← hnone] at hfull
    by_contra hm
    refine absurd (hfull.mp ?_) (by simp)
    rw [show (BitVec.allOnes 32).signExtend 64 = BitVec.allOnes 64 by decide, BitVec.and_allOnes]
    exact hm
  · intro hm wild
    simp [GnssAdapter.inMask, hm]

/-- One satellite, whatever the shifts give that are not defined. -/
lemma settled_iff (h1 : 1 ≤ sv.svId.toNat) (h64 : sv.svId.toNat ≤ 64) :
    (∀ wild, (a.reportOne wild sv).used = a.inMask sv) ↔ a.Settled sv := by
  have hone : ∀ wild, ((a.reportOne wild sv).used = a.inMask sv ↔
      ((sv.used = true ∨ a.svUsedIdMask sv.type &&&
        (shiftOne wild (sv.svId.toInt - 1)).signExtend 64 ≠ 0) ↔ a.inMask sv = true)) := by
    intro wild
    rw [Bool.eq_iff_iff, reportOne_used]
  simp only [hone, GnssAdapter.Settled]
  by_cases hused : sv.used = true
  · -- a flag that is set stays
    simp [hused]
  rw [if_neg hused]
  simp only [hused, Bool.false_eq_true, false_or]
  by_cases h33 : 33 ≤ sv.svId.toNat
  · have hlow : ¬sv.svId.toNat ≤ 31 := by omega
    have hne : sv.svId.toNat ≠ 32 := by omega
    rw [meets_wild_iff h33 h64, or_iff_right hlow, or_iff_right (fun h => hne h.1)]
  · have hin := fun wild => meets_iff_inMask (a := a) wild h1 (by omega)
    simp only [hin, forall_const]
    constructor
    · rintro (h | h)
      · exact Or.inl h
      · exact Or.inr (Or.inl h)
    · rintro (h | h | hm)
      · exact Or.inl h
      · exact Or.inr h
      · -- an empty mask has no bit above
        by_cases h : sv.svId.toNat ≤ 31
        · exact Or.inl h
        · exact Or.inr ⟨by omega, Or.inr fun i _ => by simp [hm]⟩

end Flag

/-- In the report that is delivered, the flag of every satellite with an id that a mask can hold is
the bit of its id, which the masks count from one. -/
def UsedInFix (a : GnssAdapter) (svNotify : List GnssSv) : Prop :=
  ∀ (wild : ℤ → BitVec 32) (i : ℕ) (sv sv' : GnssSv), svNotify[i]? = some sv →
    (a.reportSv wild svNotify).1[i]? = some sv' → 1 ≤ sv.svId.toNat → sv.svId.toNat ≤ 64 →
    sv'.used = a.inMask sv

/-- **When the flags are right.**  For every report and all masks, the delivered flags are the bits
of the masks exactly if every satellite is settled: a flag that was set before has its bit, and one
that was clear has an id up to 31, or the id 32 with its bit or none above, or an empty mask. -/
theorem usedInFix_iff (a : GnssAdapter) (svNotify : List GnssSv) :
    UsedInFix a svNotify ↔
      ∀ sv ∈ svNotify, 1 ≤ sv.svId.toNat → sv.svId.toNat ≤ 64 → a.Settled sv := by
  constructor
  · intro h sv hsv h1 h64
    obtain ⟨i, hi, rfl⟩ := List.getElem_of_mem hsv
    refine (settled_iff h1 h64).mp fun wild => h wild i _ _ (List.getElem?_eq_getElem hi) ?_ h1 h64
    rw [GnssAdapter.reportSv, List.getElem?_map, List.getElem?_eq_getElem hi, Option.map_some]
  · intro h wild i sv sv' hsv hsv' h1 h64
    rw [GnssAdapter.reportSv, List.getElem?_map, hsv, Option.map_some, Option.some.injEq] at hsv'
    rw [← hsv']
    exact (settled_iff h1 h64).mpr (h sv (List.mem_of_getElem? hsv) h1 h64) wild

/-- Galileo 33 was used in the fix, and nothing else. -/
def galileo33 : GnssAdapter where
  gnssSvIdUsedInPosition := ⟨0, 0, 0x100000000#64, 0, 0⟩
  gnssSvIdUsedInPosAvail := true

/-- A satellite of Galileo that was not used. -/
def galileo32 : GnssSv := ⟨32, .galileo, some 40, 45, 90, 0⟩

/-- A satellite of GPS that was not used, but comes with the flag. -/
def staleGps : GnssSv := ⟨5, .gps, some 40, 45, 90, usedInFixBit⟩

/-- Galileo 32 is flagged, as the shifted bit has a sign; and the stale flag stays. -/
theorem galileo_32_flagged :
    (∀ wild, ((galileo33.reportSv wild [galileo32, staleGps]).1.map GnssSv.used) = [true, true]) ∧
      galileo33.inMask galileo32 = false ∧ galileo33.inMask staleGps = false ∧
      ¬UsedInFix galileo33 [galileo32, staleGps] := by
  have hsign : ∀ wild, (galileo33.reportOne wild galileo32).used = true := fun wild =>
    reportOne_used.mpr (Or.inr ((meets_iff wild (by decide) (by decide)).mpr
      (Or.inr ⟨by decide, 32, by decide, by decide⟩)))
  have hstale : ∀ wild, (galileo33.reportOne wild staleGps).used = true := fun wild =>
    reportOne_used.mpr (Or.inl (by decide))
  refine ⟨fun wild => ?_, by decide, by decide, fun h => ?_⟩
  · simp [GnssAdapter.reportSv, hsign, hstale]
  · have hbit := h (fun _ => 0) 0 galileo32 _ rfl rfl (by decide) (by decide)
    rw [hsign] at hbit
    exact absurd hbit (by decide)

end Gps.LocNmea
