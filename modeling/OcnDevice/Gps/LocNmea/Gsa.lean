import OcnDevice.Gps.LocNmea.Model

/-!
# The satellites of the GSA sentences

The masks of the satellites that were used are kept from the satellite report to the position
report.  `loc_nmea_generate_sv` sets the bit `svId - 1` of 32 bits, with the id as `reportSv` has
left it, and `loc_nmea_generate_GSA` takes the bits apart again.  This gives back the ids from 1 to
32 and no others, but QZSS is delivered with ids from 193, and the other constellations have ids
above 32 as well.

* `svUsedLoop_eq` — the decoding loop lists the bits that are set in order.
* `getLsbD_countSv` — the bits that the counting loop sets.
* `gsa_lists` — while all ids are in range, the two undo each other.
-/

namespace Gps.LocNmea

/-! ## GSA -/

/-- A GSA sentence by its fields; the text of the dilution of precision comes with the position. -/
structure GsaSentence where
  talker : List Char
  fixType : Char
  svIds : List (List Char)
  dop : List Char
  systemId : ℕ
  deriving DecidableEq, Repr

/-- The decoding loop of `loc_nmea_generate_GSA`, with the ids found so far. -/
def svUsedLoop (svIdOffset mask i : ℕ) (svUsedList : List ℕ) : List ℕ :=
  if 0 < mask ∧ svUsedList.length < 32 then
    svUsedLoop svIdOffset (mask / 2) (i + 1)
      (if mask % 2 = 1 then svUsedList ++ [i + svIdOffset] else svUsedList)
  else svUsedList
  termination_by mask

/-- `loc_nmea_generate_GSA`.  The texts up to the ids always fit the buffer. -/
def loc_nmea_generate_GSA (dop : List Char) (m : LocNmeaSvMeta) : ℕ × Option GsaSentence :=
  let svUsedList := svUsedLoop m.svIdOffset m.mask.toNat 1 []
  let svUsedCount := svUsedList.length
  if svUsedCount = 0 ∧ m.svType ≠ .gps then (0, none)
  else
    (svUsedCount, some
      { talker := m.talker
        fixType := if svUsedCount = 0 then '1' else if svUsedCount ≤ 3 then '2' else '3'
        svIds := (List.range 12).map fun i =>
          if i < svUsedCount then zeroPad 2 (svUsedList.getD i 0 : ℕ) else []
        dop := dop
        systemId := m.systemId })

/-- The call of `loc_nmea_generate_pos` for a constellation: the talkers of QZSS and BeiDou are not
combined. -/
def gsa (cache : LocSvCacheInfo) (dop : List Char) (t : GnssSvType) : ℕ × Option GsaSentence :=
  match loc_nmea_sv_meta_init cache t (t ≠ .qzss ∧ t ≠ .beidou) with
  | some m => loc_nmea_generate_GSA dop m
  | none => (0, none)

/-! ## What is to be listed -/

/-- A number is printed in the GSV sentences of the constellation for a satellite that is flagged as
used. -/
def PrintedUsed (report : List GnssSv) (t : GnssSvType) (n : ℕ) : Prop :=
  ∃ sv ∈ report, sv.type = t ∧ sv.used = true ∧ n = sv.svId.toNat + svIdOffset t

/-- The result counts the satellites used, and the sentence, which is left out only when there are
none and the constellation is not GPS, lists the first twelve by id. -/
def Lists (report : List GnssSv) (t : GnssSvType) (r : ℕ × Option GsaSentence) : Prop :=
  ∃ ids : List ℕ, ids.Pairwise (· < ·) ∧ (∀ n, n ∈ ids ↔ PrintedUsed report t n) ∧
    r.1 = ids.length ∧ (r.2.isSome = true ↔ ids ≠ [] ∨ t = .gps) ∧
    ∀ s ∈ r.2, s.svIds =
      (ids.take 12).map (fun n : ℕ => zeroPad 2 n) ++ List.replicate (12 - ids.length) []

/-! ## Decoding -/

/-- **The loop lists the bits of the mask in order.**  By induction on the places that are left; the
room for 32 ids is always enough. -/
lemma svUsedLoop_eq {svIdOffset k mask i : ℕ} {list : List ℕ} (hmask : mask < 2 ^ k)
    (hroom : list.length + k ≤ 32) : svUsedLoop svIdOffset mask i list =
      list ++ ((List.range k).filter mask.testBit).map fun j => j + i + svIdOffset := by
  induction k generalizing mask i list with
  | zero =>
      have hzero : mask = 0 := by omega
      rw [svUsedLoop, if_neg (by omega)]
      simp
  | succ k ih =>
      rw [svUsedLoop]
      by_cases hpos : 0 < mask
      · have hcomp : mask.testBit ∘ Nat.succ = (mask / 2).testBit :=
          funext fun j => Nat.testBit_succ mask j
        have hlength : (if mask % 2 = 1 then list ++ [i + svIdOffset] else list).length ≤
            list.length + 1 := by
          split_ifs <;> simp
        rw [if_pos ⟨hpos, by omega⟩, ih (by omega) (by omega),
          List.range_succ_eq_map, List.filter_cons, List.filter_map, hcomp, Nat.testBit_zero]
        by_cases hodd : mask % 2 = 1
        · simp [hodd, Function.comp_def, Nat.add_assoc, Nat.add_comm 1]
        · simp [hodd, Function.comp_def, Nat.add_assoc, Nat.add_comm 1]
      · have hzero : mask = 0 := by omega
        rw [if_neg (by omega)]
        simp [hzero]

/-- The ids of a mask. -/
def decoded (svIdOffset : ℕ) (mask : BitVec 32) : List ℕ :=
  ((List.range 32).filter mask.getLsbD).map fun j => j + 1 + svIdOffset

lemma svUsedLoop_decoded (svIdOffset : ℕ) (mask : BitVec 32) :
    svUsedLoop svIdOffset mask.toNat 1 [] = decoded svIdOffset mask :=
  svUsedLoop_eq mask.isLt (by simp)

lemma decoded_pairwise (svIdOffset : ℕ) (mask : BitVec 32) :
    (decoded svIdOffset mask).Pairwise (· < ·) := by
  rw [decoded, List.pairwise_map]
  exact (List.pairwise_lt_range.filter _).imp fun h => by omega

lemma mem_decoded {svIdOffset n : ℕ} {mask : BitVec 32} : n ∈ decoded svIdOffset mask ↔
    ∃ j, mask.getLsbD j = true ∧ n = j + 1 + svIdOffset := by
  rw [decoded, List.mem_map]
  constructor
  · rintro ⟨j, hj, rfl⟩
    exact ⟨j, (List.mem_filter.mp hj).2, rfl⟩
  · rintro ⟨j, hj, rfl⟩
    exact ⟨j, List.mem_filter.mpr ⟨List.mem_range.mpr (BitVec.lt_of_getLsbD hj), hj⟩, rfl⟩

/-! ## Encoding -/

/-- **The bits that the counting loop sets**: those of the satellites that are flagged as used. -/
lemma getLsbD_countSv {wild : ℤ → BitVec 32} {report : List GnssSv} {t : GnssSvType}
    (ht : t ∈ constellations) {j : ℕ} :
    ((countSv wild report).used_mask t).getLsbD j = true ↔ ∃ sv ∈ report, sv.type = t ∧
      sv.used = true ∧ (shiftOne wild ((sv.svId.toNat : ℤ) - 1)).getLsbD j = true := by
  have hstep : ∀ (cache : LocSvCacheInfo) (sv : GnssSv),
      ((countOne wild cache sv).used_mask t).getLsbD j = true ↔
        (cache.used_mask t).getLsbD j = true ∨ (sv.type = t ∧ sv.used = true ∧
          (shiftOne wild ((sv.svId.toNat : ℤ) - 1)).getLsbD j = true) := by
    intro cache sv
    by_cases htype : sv.type = t
    · subst htype
      rw [countOne, if_pos ht]
      cases hused : sv.used with
      | false => simp
      | true => simp [Function.update_self]
    · rw [(countOne_of_ne (Ne.symm htype)).1]
      simp [htype]
  have hloop : ∀ (cache : LocSvCacheInfo), ((report.foldl (countOne wild) cache).used_mask
      t).getLsbD j = true ↔ (cache.used_mask t).getLsbD j = true ∨ ∃ sv ∈ report, sv.type = t ∧
        sv.used = true ∧ (shiftOne wild ((sv.svId.toNat : ℤ) - 1)).getLsbD j = true := by
    induction report with
    | nil => simp
    | cons sv report ih =>
        intro cache
        rw [List.foldl_cons, ih, hstep, or_assoc, List.exists_mem_cons_iff]
  rw [countSv, hloop]
  simp

lemma getLsbD_shiftOne {wild : ℤ → BitVec 32} {n j : ℕ} (h1 : 1 ≤ n) (h32 : n ≤ 32) :
    (shiftOne wild ((n : ℤ) - 1)).getLsbD j = true ↔ n = j + 1 := by
  have hdist : ((n : ℤ) - 1).toNat = n - 1 := by omega
  rw [shiftOne, if_pos (by omega), hdist, BitVec.getLsbD_shiftLeft, BitVec.getLsbD_one]
  grind

/-! ## There and back -/

section Back

variable {wild : ℤ → BitVec 32} {report : List GnssSv} {t : GnssSvType} {dop : List Char}

/-- The ids that a cache is decoded to. -/
def LocSvCacheInfo.ids (cache : LocSvCacheInfo) (t : GnssSvType) : List ℕ :=
  decoded (svIdOffset t) (cache.used_mask t)

/-- Twelve fields, of which the last are empty. -/
lemma fields_eq (ids : List ℕ) :
    ((List.range 12).map fun i =>
      if i < ids.length then zeroPad 2 (ids.getD i 0 : ℕ) else []) =
      (ids.take 12).map (fun n : ℕ => zeroPad 2 n) ++ List.replicate (12 - ids.length) [] := by
  refine List.ext_getElem (by simp; omega) fun i hi hi' => ?_
  have h12 : i < 12 := by simpa using hi
  rw [List.getElem_map, List.getElem_range]
  by_cases h : i < ids.length
  · have hfront : i < ((ids.take 12).map fun n : ℕ => zeroPad 2 n).length := by
      rw [List.length_map, List.length_take]
      omega
    rw [if_pos h, List.getElem_append_left hfront, List.getElem_map, List.getElem_take,
      List.getD_eq_getElem _ _ h]
  · have hback : ((ids.take 12).map fun n : ℕ => zeroPad 2 n).length ≤ i := by
      rw [List.length_map, List.length_take]
      omega
    rw [if_neg h, List.getElem_append_right hback, List.getElem_replicate]

/-- What a call counts and lists. -/
lemma gsa_fields (dop : List Char) (ht : t ∈ constellations) (cache : LocSvCacheInfo) :
    (gsa cache dop t).1 = (cache.ids t).length ∧
      ((gsa cache dop t).2.isSome = true ↔ cache.ids t ≠ [] ∨ t = .gps) ∧
      ∀ s ∈ (gsa cache dop t).2, s.svIds = ((cache.ids t).take 12).map (fun n : ℕ => zeroPad 2 n) ++
        List.replicate (12 - (cache.ids t).length) [] := by
  obtain ⟨tk, htk⟩ : ∃ tk, talker t = some tk := by
    simp only [constellations, List.mem_cons, List.not_mem_nil, or_false] at ht
    rcases ht with rfl | rfl | rfl | rfl | rfl <;> exact ⟨_, rfl⟩
  have hids : svUsedLoop (svIdOffset t) (cache.used_mask t).toNat 1 [] = cache.ids t :=
    svUsedLoop_decoded _ _
  simp only [gsa, loc_nmea_sv_meta_init, htk, Option.map_some, loc_nmea_generate_GSA, hids]
  by_cases hnone : (cache.ids t).length = 0 ∧ t ≠ .gps
  · rw [if_pos hnone]
    simp [hnone.2, List.length_eq_zero_iff.mp hnone.1]
  · rw [if_neg hnone]
    refine ⟨rfl, iff_of_true rfl ?_, ?_⟩
    · by_contra hneither
      push Not at hneither
      exact hnone ⟨List.length_eq_zero_iff.mpr hneither.1, hneither.2⟩
    · rintro s hs
      cases hs
      exact fields_eq _

/-- While the ids of the satellites used are in range, the cache is decoded to just these. -/
lemma mem_ids (ht : t ∈ constellations)
    (hrange : ∀ sv ∈ report, sv.type = t → sv.used = true →
      1 ≤ sv.svId.toNat ∧ sv.svId.toNat ≤ 32) {n : ℕ} :
    n ∈ (countSv wild report).ids t ↔ PrintedUsed report t n := by
  rw [LocSvCacheInfo.ids, mem_decoded]
  constructor
  · rintro ⟨j, hj, rfl⟩
    obtain ⟨sv, hsv, htype, hused, hbit⟩ := (getLsbD_countSv ht).mp hj
    obtain ⟨h1, h32⟩ := hrange sv hsv htype hused
    exact ⟨sv, hsv, htype, hused, by rw [(getLsbD_shiftOne h1 h32).mp hbit]⟩
  · rintro ⟨sv, hsv, htype, hused, rfl⟩
    obtain ⟨h1, h32⟩ := hrange sv hsv htype hused
    have hid : sv.svId.toNat = sv.svId.toNat - 1 + 1 := by omega
    exact ⟨sv.svId.toNat - 1, (getLsbD_countSv ht).mpr
      ⟨sv, hsv, htype, hused, (getLsbD_shiftOne h1 h32).mpr hid⟩, by rw [← hid]⟩

/-- **While the ids are in range, the sentence lists the satellites used.** -/
lemma gsa_lists (ht : t ∈ constellations)
    (hrange : ∀ sv ∈ report, sv.type = t → sv.used = true →
      1 ≤ sv.svId.toNat ∧ sv.svId.toNat ≤ 32) :
    Lists report t (gsa (countSv wild report) dop t) := by
  obtain ⟨hcount, hsome, hfields⟩ := gsa_fields dop ht (countSv wild report)
  exact ⟨_, decoded_pairwise _ _, fun n => mem_ids ht hrange, hcount, hsome, hfields⟩

/-- When shifts that are not defined give zero, only ids in range are decoded. -/
lemma printed_of_mem_ids (ht : t ∈ constellations) {n : ℕ}
    (h : n ∈ (countSv (fun _ => 0) report).ids t) : PrintedUsed report t n ∧
      svIdOffset t + 1 ≤ n ∧ n ≤ svIdOffset t + 32 := by
  rw [LocSvCacheInfo.ids, mem_decoded] at h
  obtain ⟨j, hj, rfl⟩ := h
  obtain ⟨sv, hsv, htype, hused, hbit⟩ := (getLsbD_countSv ht).mp hj
  have hj32 := BitVec.lt_of_getLsbD hbit
  by_cases hrange : 1 ≤ sv.svId.toNat ∧ sv.svId.toNat ≤ 32
  · have hid := (getLsbD_shiftOne hrange.1 hrange.2).mp hbit
    exact ⟨⟨sv, hsv, htype, hused, by rw [hid]⟩, by omega, by omega⟩
  · rw [shiftOne, if_neg (by omega)] at hbit
    simp at hbit

/-- **An id out of range is lost**: then fewer are counted than there are. -/
lemma in_range_of_lists (ht : t ∈ constellations)
    (h : Lists report t (gsa (countSv (fun _ => 0) report) dop t)) {sv : GnssSv}
    (hsv : sv ∈ report) (htype : sv.type = t) (hused : sv.used = true) :
    1 ≤ sv.svId.toNat ∧ sv.svId.toNat ≤ 32 := by
  obtain ⟨ids, hsorted, hmem, hcount, -⟩ := h
  rw [(gsa_fields _ ht _).1] at hcount
  have hsub : (countSv (fun _ => 0) report).ids t ⊆ ids := fun n hn =>
    (hmem n).mpr (printed_of_mem_ids ht hn).1
  have hnodup : ((countSv (fun _ => 0) report).ids t).Nodup :=
    (decoded_pairwise _ _).imp fun hlt => hlt.ne
  have hperm := (hnodup.subperm hsub).perm_of_length_le hcount.ge
  have hn : sv.svId.toNat + svIdOffset t ∈ (countSv (fun _ => 0) report).ids t :=
    hperm.mem_iff.mpr ((hmem _).mpr ⟨sv, hsv, htype, hused, rfl⟩)
  have hrange := (printed_of_mem_ids ht hn).2
  omega

end Back

/-- **When the GSA sentences list the satellites used.**  For every report as `reportSv` delivers
it, and whatever the shifts give that are not defined: the sentences of the five constellations list
the first twelve of the satellites used, and count all of them, exactly if every satellite that is
flagged as used has an id from 1 to 32. -/
theorem gsa_lists_iff (wild : ℤ → BitVec 32) (a : GnssAdapter) (svNotify : List GnssSv) :
    (∀ (wild' : ℤ → BitVec 32) (dop : List Char), ∀ t ∈ constellations,
      Lists (a.reportSv wild svNotify).1 t
        (gsa (countSv wild' (a.reportSv wild svNotify).1) dop t)) ↔
      ∀ sv ∈ (a.reportSv wild svNotify).1, sv.type ∈ constellations → sv.used = true →
        1 ≤ sv.svId.toNat ∧ sv.svId.toNat ≤ 32 := by
  constructor
  · intro h sv hsv ht hused
    exact in_range_of_lists ht (h (fun _ => 0) [] sv.type ht) hsv rfl hused
  · intro h wild' dop t ht
    exact gsa_lists ht fun sv hsv htype hused => h sv hsv (htype ▸ ht) hused

/-- An adapter for which QZSS 1 was used in the fix. -/
def qzssUsed : GnssAdapter := ⟨⟨0, 0, 0, 0, 1⟩, true⟩

/-- QZSS 1 as it comes, and as it is delivered. -/
def qzss (svId gnssSvOptionsMask : BitVec 16) : GnssSv :=
  ⟨svId, .qzss, some 40, 45, 90, gnssSvOptionsMask⟩

/-- QZSS 1 was used and is delivered with the id 193, and none of QZSS is counted as used. -/
theorem qzss_not_listed :
    (qzssUsed.reportSv (fun _ => 0) [qzss 1 0]).1 = [qzss 193 usedInFixBit] ∧
      (gsa (countSv (fun _ => 0) [qzss 193 usedInFixBit]) [] .qzss).1 = 0 ∧
      ¬Lists [qzss 193 usedInFixBit] .qzss
        (gsa (countSv (fun _ => 0) [qzss 193 usedInFixBit]) [] .qzss) := by
  refine ⟨by decide +kernel, ?_, fun h => ?_⟩
  · rw [(gsa_fields _ (by decide) _).1]
    decide +kernel
  · have hrange := in_range_of_lists (by decide) h (List.mem_singleton_self _) rfl (by decide)
    exact absurd hrange.2 (by decide)

end Gps.LocNmea
