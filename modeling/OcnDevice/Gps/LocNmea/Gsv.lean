import OcnDevice.Core.Groups
import OcnDevice.Gps.LocNmea.Model

/-!
# GSV sentences

`loc_nmea_generate_sv` counts the satellites of each constellation and then prints them, four to a
sentence.  The inner loop of `loc_nmea_generate_GSV` filters the report and moves an index on that
the outer loop shares, so what it leaves of the report is what the next sentence starts from.  As
long as every sentence fits the buffer, the sentences go with the groups of four of the satellites.

* `count_countSv` — the counts of the first pass.
* `fill_eq` — the inner loop takes up to four satellites and leaves the others.
* `gsvLoop_eq` — the outer loop prints the groups.
-/

namespace Gps.LocNmea

open Groups

/-! ## Sentences -/

/-- `NMEA_SENTENCE_MAX_LENGTH`. -/
def nmeaSentenceMaxLength : ℕ := 200

/-- A call of `snprintf` at the marker, and the return behind it when the text does not fit. -/
def put (sentence text : List Char) : Option (List Char) :=
  if text.length < nmeaSentenceMaxLength - sentence.length then some (sentence ++ text) else none

/-- A call of `snprintf` at the marker that is not checked. -/
def putCut (sentence text : List Char) : List Char :=
  sentence ++ text.take (nmeaSentenceMaxLength - sentence.length - 1)

/-- The characters joined by exclusive or. -/
def checksum (text : List Char) : BitVec 8 :=
  text.foldl (fun sum c => sum ^^^ BitVec.ofNat 8 c.toNat) 0

/-- `%02X`. -/
def hexByte (b : BitVec 8) : List Char :=
  [(Nat.digitChar (b.toNat / 16)).toUpper, (Nat.digitChar (b.toNat % 16)).toUpper]

/-- `loc_nmea_put_checksum`; the first character is skipped. -/
def loc_nmea_put_checksum (sentence : List Char) : List Char :=
  putCut sentence ('*' :: hexByte (checksum sentence.tail) ++ ['\r', '\n'])

/-! ## The loops -/

/-- The fields of one satellite, and the signal strength if there is one. -/
def putSv (svIdOffset : ℕ) (sv : GnssSv) (sentence : List Char) : Option (List Char) := do
  let sentence ← put sentence
    (',' :: printedId svIdOffset sv.svId.toNat ++ ',' :: zeroPad 2 sv.elevation ++
      ',' :: zeroPad 3 sv.azimuth ++ [','])
  match sv.cN0Dbhz with
  | some cN0Dbhz => put sentence (zeroPad 2 cN0Dbhz)
  | none => some sentence

/-- The inner loop of `loc_nmea_generate_GSV`, from `svNumber` on: the sentence, and what is left of
the report. -/
def fill (m : LocNmeaSvMeta) : ℕ → List GnssSv → List Char → Option (List Char × List GnssSv)
  | _, [], sentence => some (sentence, [])
  | i, sv :: svs, sentence =>
      if i < 4 then
        if m.svType = sv.type then do
          let sentence ← putSv m.svIdOffset sv sentence
          fill m (i + 1) svs sentence
        else fill m i svs sentence
      else some (sentence, sv :: svs)

/-- `%sGSV,%d,%d,%02d`. -/
def gsvHeader (talker : List Char) (sentenceCount sentenceNumber svCount : ℕ) : List Char :=
  talker ++ ['G', 'S', 'V', ','] ++ digits sentenceCount ++ ',' :: digits sentenceNumber ++
    ',' :: zeroPad 2 svCount

/-- The entries that only QZSS and BeiDou have. -/
def putSystem (m : LocNmeaSvMeta) (sentence : List Char) : List Char :=
  if m.svType = .qzss ∨ m.svType = .beidou then
    putCut sentence ([',', '0', ','] ++ digits m.systemId)
  else sentence

/-- One pass of the outer loop. -/
def gsvOne (m : LocNmeaSvMeta) (sentenceCount sentenceNumber : ℕ) (svs : List GnssSv) :
    Option (List Char × List GnssSv) := do
  let sentence ← put [] ('$' :: gsvHeader m.talker sentenceCount sentenceNumber m.svCount)
  let (sentence, svs) ← fill m 0 svs sentence
  some (loc_nmea_put_checksum (putSystem m sentence), svs)

/-- The outer loop of `loc_nmea_generate_GSV`, which returns when a sentence does not fit. -/
def gsvLoop (m : LocNmeaSvMeta) (sentenceCount sentenceNumber : ℕ) (svs : List GnssSv) :
    List (List Char) :=
  if sentenceNumber ≤ sentenceCount then
    match gsvOne m sentenceCount sentenceNumber svs with
    | some (sentence, svs) =>
        sentence :: gsvLoop m sentenceCount (sentenceNumber + 1) svs
    | none => []
  else []
  termination_by sentenceCount + 1 - sentenceNumber

/-- `loc_nmea_generate_GSV`. -/
def loc_nmea_generate_GSV (svNotify : List GnssSv) (m : LocNmeaSvMeta) : List (List Char) :=
  if m.svCount = 0 then
    [loc_nmea_put_checksum
      (putCut [] ('$' :: m.talker ++ ['G', 'S', 'V', ',', '1', ',', '1', ',', '0', ',']))]
  else
    let sentenceCount := m.svCount / 4 + if m.svCount % 4 ≠ 0 then 1 else 0
    gsvLoop m sentenceCount 1 svNotify

/-- The call of `loc_nmea_generate_sv` for a constellation. -/
def gsv (cache : LocSvCacheInfo) (svNotify : List GnssSv) (t : GnssSvType) : List (List Char) :=
  match loc_nmea_sv_meta_init cache t false with
  | some m => loc_nmea_generate_GSV svNotify m
  | none => []

/-- `loc_nmea_generate_sv`: the sentences, and the cache that is left for the position report. -/
def loc_nmea_generate_sv (wild : ℤ → BitVec 32) (svNotify : List GnssSv) :
    List (List Char) × LocSvCacheInfo :=
  let cache := countSv wild svNotify
  (constellations.flatMap (gsv cache svNotify), cache)

/-! ## What is to be printed -/

/-- The fields of a satellite. -/
def svText (svIdOffset : ℕ) (sv : GnssSv) : List Char :=
  ',' :: printedId svIdOffset sv.svId.toNat ++ ',' :: zeroPad 2 sv.elevation ++
    ',' :: zeroPad 3 sv.azimuth ++ ',' :: (sv.cN0Dbhz.elim [] (zeroPad 2))

/-- QZSS and BeiDou end with the ids of the signal and of the system. -/
def systemText (t : GnssSvType) : List Char :=
  if t = .qzss ∨ t = .beidou then [',', '0', ','] ++ digits (systemId t) else []

/-- What stands between `$` and `*` in the sentence with the given number, of `total` sentences for
`n` satellites. -/
def payload (t : GnssSvType) (total number n : ℕ) (part : List GnssSv) : List Char :=
  gsvHeader ((talker t).getD []) total number n ++ part.flatMap (svText (svIdOffset t)) ++
    systemText t

/-- The same for a constellation without satellites. -/
def blankPayload (t : GnssSvType) : List Char :=
  (talker t).getD [] ++ ['G', 'S', 'V', ',', '1', ',', '1', ',', '0', ',']

/-- A sentence with its checksum. -/
def checked (payload : List Char) : List Char :=
  '$' :: payload ++ '*' :: hexByte (checksum payload) ++ ['\r', '\n']

/-- The satellites of a constellation. -/
def ofType (svNotify : List GnssSv) (t : GnssSvType) : List GnssSv :=
  svNotify.filter fun sv => t = sv.type

/-- The sentences of a constellation with these satellites: all of them in order, four to a
sentence but for the last, with the number of the sentence and of all sentences; or one blank
sentence. -/
def Prints (t : GnssSvType) (svs : List GnssSv) (sentences : List (List Char)) : Prop :=
  if svs = [] then sentences = [checked (blankPayload t)]
  else ∃ parts, Divides 4 svs parts ∧ parts.length = svs.length ⌈/⌉ 4 ∧
    sentences = parts.mapIdx fun i part =>
      checked (payload t (svs.length ⌈/⌉ 4) (i + 1) svs.length part)

/-- The sentences that are to be printed fit the buffer. -/
def Fits (svNotify : List GnssSv) : Prop :=
  ∀ t ∈ constellations, ∀ sentences, Prints t (ofType svNotify t) sentences →
    ∀ sentence ∈ sentences, sentence.length < nmeaSentenceMaxLength

/-! ## The first pass -/

section Count

variable {wild : ℤ → BitVec 32} {svNotify : List GnssSv} {t : GnssSvType}

/-- **The counts of the first pass.**  By induction on the report, with any cache to start from. -/
lemma count_countSv (ht : t ∈ constellations) :
    (countSv wild svNotify).count t = (ofType svNotify t).length := by
  have hloop : ∀ cache : LocSvCacheInfo, (svNotify.foldl (countOne wild) cache).count t =
      cache.count t + (ofType svNotify t).length := by
    induction svNotify with
    | nil => intro cache; simp [ofType]
    | cons sv svNotify ih =>
        intro cache
        rw [List.foldl_cons, ih, ofType, ofType, List.filter_cons]
        by_cases htype : t = sv.type
        · subst htype
          rw [countOne, if_pos ht]
          simp
          omega
        · rw [(countOne_of_ne htype).2]
          simp [htype]
  rw [countSv, hloop, Nat.zero_add]

end Count

/-! ## Texts that fit -/

section Fit

variable {sentence text : List Char}

lemma put_eq (h : (sentence ++ text).length < nmeaSentenceMaxLength) :
    put sentence text = some (sentence ++ text) := by
  rw [List.length_append] at h
  exact if_pos (by omega)

lemma putCut_eq (h : (sentence ++ text).length < nmeaSentenceMaxLength) :
    putCut sentence text = sentence ++ text := by
  rw [List.length_append] at h
  rw [putCut, List.take_of_length_le (by omega)]

lemma loc_nmea_put_checksum_eq (h : (checked text).length < nmeaSentenceMaxLength) :
    loc_nmea_put_checksum ('$' :: text) = checked text := by
  rw [loc_nmea_put_checksum, List.tail_cons, putCut_eq]
  · simp [checked]
  · simpa [checked] using h

lemma putSv_eq {svIdOffset : ℕ} {sv : GnssSv}
    (h : (sentence ++ svText svIdOffset sv).length < nmeaSentenceMaxLength) :
    putSv svIdOffset sv sentence = some (sentence ++ svText svIdOffset sv) := by
  simp only [svText, List.length_append, List.length_cons] at h
  rw [putSv, put_eq (by simp; omega)]
  cases hc : sv.cN0Dbhz with
  | none => simp [svText, hc]
  | some cN0Dbhz =>
      rw [hc, Option.elim_some] at h
      simp only [Option.bind_eq_bind, Option.bind_some]
      rw [put_eq (by simp; omega)]
      simp [svText, hc]

end Fit

/-! ## The loops print the groups -/

section Loops

/-- The description of a constellation without a talker for several. -/
def plainMeta (cache : LocSvCacheInfo) (t : GnssSvType) : LocNmeaSvMeta where
  talker := (talker t).getD []
  svType := t
  mask := cache.used_mask t
  svCount := cache.count t
  svIdOffset := svIdOffset t
  systemId := systemId t

variable {m : LocNmeaSvMeta} {cache : LocSvCacheInfo} {t : GnssSvType} {svs : List GnssSv}
  {total number : ℕ}

lemma loc_nmea_sv_meta_init_eq (ht : t ∈ constellations) :
    loc_nmea_sv_meta_init cache t false = some (plainMeta cache t) := by
  simp only [constellations, List.mem_cons, List.not_mem_nil, or_false] at ht
  rcases ht with rfl | rfl | rfl | rfl | rfl <;> rfl

/-- **The inner loop takes what is missing of four satellites, and leaves the others.** -/
lemma fill_eq {i : ℕ} (svs : List GnssSv) (sentence : List Char)
    (h : (sentence ++ ((ofType svs m.svType).take (4 - i)).flatMap
      (svText m.svIdOffset)).length < nmeaSentenceMaxLength) :
    ∃ rest, ofType rest m.svType = (ofType svs m.svType).drop (4 - i) ∧
      fill m i svs sentence = some (sentence ++
        ((ofType svs m.svType).take (4 - i)).flatMap (svText m.svIdOffset), rest) := by
  induction svs generalizing i sentence with
  | nil => exact ⟨[], by simp [ofType], by simp [fill, ofType]⟩
  | cons sv svs ih =>
      rw [fill]
      by_cases hi : i < 4
      · rw [if_pos hi]
        by_cases htype : m.svType = sv.type
        · have hcons : ofType (sv :: svs) m.svType = sv :: ofType svs m.svType := by
            simp [ofType, htype]
          obtain ⟨k, hk⟩ : ∃ k, 4 - i = k + 1 := ⟨3 - i, by omega⟩
          have hk' : 4 - (i + 1) = k := by omega
          rw [hcons, hk, List.take_succ_cons, List.flatMap_cons, ← List.append_assoc] at h
          rw [if_pos htype, putSv_eq (by rw [List.length_append] at h; omega), hcons, hk,
            List.take_succ_cons, List.flatMap_cons, List.drop_succ_cons, ← List.append_assoc, ← hk']
          exact ih _ (by rw [hk']; exact h)
        · have hskip : ofType (sv :: svs) m.svType = ofType svs m.svType := by
            simp [ofType, htype]
          rw [hskip] at h ⊢
          rw [if_neg htype]
          exact ih _ h
      · have hzero : 4 - i = 0 := by omega
        exact ⟨sv :: svs, by simp [hzero], by simp [hi, hzero]⟩

lemma putSystem_eq {sentence : List Char}
    (h : (sentence ++ systemText t).length < nmeaSentenceMaxLength) :
    putSystem (plainMeta cache t) sentence = sentence ++ systemText t := by
  rw [putSystem, systemText] at *
  by_cases ht : t = .qzss ∨ t = .beidou
  · rw [if_pos ht] at h ⊢
    exact (if_pos ht).trans (putCut_eq h)
  · rw [if_neg ht, List.append_nil]
    exact if_neg ht

/-- One sentence, for the next four satellites. -/
lemma gsvOne_eq (h : (checked (payload t total number (cache.count t)
      ((ofType svs t).take 4))).length < nmeaSentenceMaxLength) :
    ∃ rest, ofType rest t = (ofType svs t).drop 4 ∧
      gsvOne (plainMeta cache t) total number svs = some (checked
        (payload t total number (cache.count t) ((ofType svs t).take 4)), rest) := by
  have hlength := h
  simp only [checked, payload, List.length_append, List.length_cons] at hlength
  obtain ⟨rest, hrest, hfill⟩ := fill_eq (m := plainMeta cache t) (i := 0) svs
    ('$' :: gsvHeader ((talker t).getD []) total number (cache.count t))
    (by simp only [plainMeta, Nat.sub_zero, List.length_append, List.length_cons]; omega)
  refine ⟨rest, hrest, ?_⟩
  have hheader : put [] ('$' :: gsvHeader (plainMeta cache t).talker total number
      (plainMeta cache t).svCount) =
        some ('$' :: gsvHeader ((talker t).getD []) total number (cache.count t)) := by
    refine put_eq ?_
    simp only [plainMeta, List.nil_append, List.length_cons]
    omega
  rw [gsvOne, hheader, Option.bind_eq_bind, Option.bind_some, hfill]
  simp only [Option.bind_eq_bind, Option.bind_some]
  rw [putSystem_eq (by simp only [plainMeta, Nat.sub_zero, List.length_append,
    List.length_cons]; omega)]
  exact congrArg (fun text => some (text, rest)) (loc_nmea_put_checksum_eq h)

/-- **The outer loop prints the groups.**  By induction on the satellites that are left; with them
goes the number of the sentences that are left. -/
lemma gsvLoop_eq (hnumber : number + (ofType svs t).length ⌈/⌉ 4 = total + 1)
    (h : ∀ sentence ∈ (groups 4 (ofType svs t)).mapIdx fun i part =>
      checked (payload t total (number + i) (cache.count t) part),
      sentence.length < nmeaSentenceMaxLength) :
    gsvLoop (plainMeta cache t) total number svs = (groups 4 (ofType svs t)).mapIdx fun i part =>
      checked (payload t total (number + i) (cache.count t) part) := by
  induction hn : (ofType svs t).length using Nat.strong_induction_on generalizing number svs with
  | _ n ih =>
      rw [gsvLoop]
      by_cases hnone : ofType svs t = []
      · rw [hnone, List.length_nil, zero_ceilDiv] at hnumber
        rw [if_neg (by omega), hnone, groups_nil, List.mapIdx_nil]
      · have hcount := ceilDiv_drop (k := 4) (by omega) hnone
        rw [groups_of_ne_nil (by omega) hnone, List.mapIdx_cons, Nat.add_zero] at h ⊢
        obtain ⟨hfirst, hothers⟩ := List.forall_mem_cons.mp h
        obtain ⟨rest, hrest, hone⟩ := gsvOne_eq hfirst
        have hnext : (fun i part => checked
            (payload t total (number + (i + 1)) (cache.count t) part)) =
              fun i part => checked (payload t total (number + 1 + i) (cache.count t) part) := by
          funext i part
          rw [Nat.add_right_comm, Nat.add_assoc]
        rw [hnext, ← hrest] at hothers ⊢
        rw [if_pos (by omega), hone]
        refine congrArg (List.cons _) (ih (ofType rest t).length ?_ ?_ hothers rfl)
        · rw [hrest, List.length_drop]
          have hpos := List.length_pos_iff.mpr hnone
          omega
        · rw [hrest]
          omega

lemma prints_nil {sentences : List (List Char)} (h : svs = []) :
    Prints t svs sentences ↔ sentences = [checked (blankPayload t)] := by
  rw [Prints, if_pos h]

lemma prints_of_ne_nil {sentences : List (List Char)} (h : svs ≠ []) :
    Prints t svs sentences ↔ ∃ parts, Divides 4 svs parts ∧ parts.length = svs.length ⌈/⌉ 4 ∧
      sentences = parts.mapIdx fun i part =>
        checked (payload t (svs.length ⌈/⌉ 4) (i + 1) svs.length part) := by
  rw [Prints, if_neg h]

/-- **What a call prints**, when the first pass has counted the satellites. -/
lemma gsv_prints (ht : t ∈ constellations) (hcount : cache.count t = (ofType svs t).length)
    (h : ∀ sentences, Prints t (ofType svs t) sentences →
      ∀ sentence ∈ sentences, sentence.length < nmeaSentenceMaxLength) :
    Prints t (ofType svs t) (gsv cache svs t) := by
  have hcall : gsv cache svs t = loc_nmea_generate_GSV svs (plainMeta cache t) := by
    rw [gsv, loc_nmea_sv_meta_init_eq ht]
  have hsvCount : (plainMeta cache t).svCount = (ofType svs t).length := hcount
  rw [hcall, loc_nmea_generate_GSV, hsvCount]
  by_cases hnone : ofType svs t = []
  · simp only [prints_nil hnone] at h ⊢
    have hblank := h _ rfl _ (List.mem_singleton_self _)
    have hput : putCut [] ('$' :: blankPayload t) = '$' :: blankPayload t := by
      refine putCut_eq ?_
      simp only [checked, List.length_append, List.length_cons, List.nil_append] at hblank ⊢
      omega
    rw [hnone, if_pos List.length_nil, ← loc_nmea_put_checksum_eq hblank, ← hput]
    rfl
  · have hpos := List.length_pos_iff.mpr hnone
    have hceil : (ofType svs t).length / 4 + (if (ofType svs t).length % 4 ≠ 0 then 1 else 0) =
        (ofType svs t).length ⌈/⌉ 4 := by
      rw [Nat.ceilDiv_eq_add_pred_div]
      split_ifs <;> omega
    have hone : (fun i part => checked (payload t ((ofType svs t).length ⌈/⌉ 4) (i + 1)
        (ofType svs t).length part)) = fun i part => checked
          (payload t ((ofType svs t).length ⌈/⌉ 4) (1 + i) (cache.count t) part) := by
      funext i part
      rw [Nat.add_comm, hcount]
    have hgroups := groups_divides (k := 4) (by omega) (ofType svs t)
    simp only [prints_of_ne_nil hnone, hone] at h ⊢
    rw [if_neg (by omega), hceil]
    exact ⟨_, hgroups, length_groups,
      gsvLoop_eq (by omega) (h _ ⟨_, hgroups, length_groups, rfl⟩)⟩

end Loops

/-! ## Characters -/

section Characters

variable {c : Char} {t : GnssSvType}

lemma not_mem_digits (hc : c.isDigit = false) {n : ℕ} : c ∉ digits n := by
  intro h
  have hdigit := Nat.isDigit_of_mem_toDigits (by omega) (by omega) h
  rw [hc] at hdigit
  exact Bool.false_ne_true hdigit

lemma not_mem_zeroPad (hc : c.isDigit = false) (hminus : c ≠ '-') {w : ℕ} {n : ℤ} :
    c ∉ zeroPad w n := by
  have hzero : c ≠ '0' := by
    rintro rfl
    exact absurd hc (by decide)
  have hpad : ∀ k, c ∉ (Nat.toDigits 10 n.natAbs).leftpad k '0' := by
    intro k h
    rcases List.mem_append.mp h with h | h
    · exact hzero (List.eq_of_mem_replicate h)
    · exact not_mem_digits hc h
  rw [zeroPad]
  split_ifs with hneg
  · intro h
    rcases List.mem_cons.mp h with rfl | h
    · exact hminus rfl
    · exact hpad _ h
  · exact hpad _

/-- **What is printed keeps clear of the two characters that frame it.** -/
lemma not_mem_payload (hc : c ∈ ['$', '*']) :
    (∀ total number n part, c ∉ payload t total number n part) ∧ c ∉ blankPayload t := by
  have hdigit : c.isDigit = false := by
    rcases List.mem_pair.mp hc with rfl | rfl <;> rfl
  have hminus : c ≠ '-' := by
    rcases List.mem_pair.mp hc with rfl | rfl <;> decide
  have hfixed : c ≠ ',' ∧ c ≠ '0' ∧ c ≠ '1' ∧ c ≠ 'G' ∧ c ≠ 'S' ∧ c ≠ 'V' := by
    rcases List.mem_pair.mp hc with rfl | rfl <;> decide
  have htalker : c ∉ (talker t).getD [] := by
    rcases List.mem_pair.mp hc with rfl | rfl <;> cases t <;> decide
  have hdigits : ∀ n, c ∉ digits n := fun n => not_mem_digits hdigit
  have hpad : ∀ w n, c ∉ zeroPad w n := fun w n => not_mem_zeroPad hdigit hminus
  have hsv : ∀ sv, c ∉ svText (svIdOffset t) sv := by
    intro sv
    cases hcN0 : sv.cN0Dbhz <;> simp [svText, printedId, hcN0, hfixed, hpad]
  have hsystem : c ∉ systemText t := by
    rw [systemText]
    split_ifs <;> simp [hfixed, hdigits]
  constructor
  · intro total number n part
    simp [payload, gsvHeader, hfixed, htalker, hdigits, hpad, hsv, hsystem]
  · simp [blankPayload, hfixed, htalker]

lemma framed_of_prints {svs : List GnssSv} {sentences : List (List Char)}
    (h : Prints t svs sentences) {sentence : List Char} (hsentence : sentence ∈ sentences) :
    ∃ payload, '$' ∉ payload ∧ '*' ∉ payload ∧ sentence = checked payload := by
  obtain ⟨hdollar, hdollar'⟩ := not_mem_payload (t := t) (List.mem_pair.mpr (Or.inl rfl))
  obtain ⟨hstar, hstar'⟩ := not_mem_payload (t := t) (List.mem_pair.mpr (Or.inr rfl))
  by_cases hnone : svs = []
  · rw [(prints_nil hnone).mp h, List.mem_singleton] at hsentence
    exact ⟨_, hdollar', hstar', hsentence⟩
  · obtain ⟨parts, -, -, rfl⟩ := (prints_of_ne_nil hnone).mp h
    obtain ⟨i, hi, rfl⟩ := List.mem_mapIdx.mp hsentence
    exact ⟨_, hdollar _ _ _ _, hstar _ _ _ _, rfl⟩

end Characters

/-! ## Reports that fit -/

section Ranges

variable {t : GnssSvType}

/-- The values of a satellite have at most three places. -/
structure InRange (sv : GnssSv) : Prop where
  elevation : sv.elevation.natAbs < 1000
  azimuth : sv.azimuth.natAbs < 1000
  cN0Dbhz : ∀ cN0Dbhz ∈ sv.cN0Dbhz, cN0Dbhz.natAbs < 1000

lemma length_digits {n k : ℕ} (hk : 0 < k) (h : n < 10 ^ k) : (digits n).length ≤ k :=
  Nat.toDigits_length 10 n k hk h

lemma length_zeroPad {w k : ℕ} {n : ℤ} (hk : 0 < k) (hw : w ≤ k) (h : n.natAbs < 10 ^ k) :
    (zeroPad w n).length ≤ k + 1 := by
  have hdigits : (Nat.toDigits 10 n.natAbs).length ≤ k := length_digits hk h
  rw [zeroPad]
  split_ifs
  · rw [List.length_cons, List.length_leftpad]
    omega
  · rw [List.length_leftpad]
    omega

lemma length_talker : ((talker t).getD []).length ≤ 2 := by
  cases t <;> decide

lemma length_svText {sv : GnssSv} (h : InRange sv) : (svText (svIdOffset t) sv).length ≤ 22 := by
  have hoffset : svIdOffset t ≤ 64 := by
    cases t <;> decide
  have hid : (printedId (svIdOffset t) sv.svId.toNat).length ≤ 6 := by
    refine length_zeroPad (by omega) (by omega) ?_
    rw [Int.natAbs_natCast]
    have hlt := sv.svId.isLt
    omega
  have helevation := length_zeroPad (w := 2) (k := 3) (by omega) (by omega) h.elevation
  have hazimuth := length_zeroPad (w := 3) (k := 3) (by omega) (by omega) h.azimuth
  have hcN0 : (sv.cN0Dbhz.elim [] (zeroPad 2)).length ≤ 4 := by
    cases hsome : sv.cN0Dbhz with
    | none => exact Nat.zero_le _
    | some cN0Dbhz => exact length_zeroPad (by omega) (by omega) (h.cN0Dbhz _ hsome)
  simp only [svText, List.length_append, List.length_cons]
  omega

lemma length_systemText : (systemText t).length ≤ 4 := by
  cases t <;> decide

/-- **A report fits** that has fewer than a thousand satellites with values of at most three
places. -/
lemma fits_of_inRange {svNotify : List GnssSv} (hlength : svNotify.length < 1000)
    (hrange : ∀ sv ∈ svNotify, InRange sv) : Fits svNotify := by
  intro t ht sentences hprints sentence hsentence
  have htalker := length_talker (t := t)
  have hcount : (ofType svNotify t).length < 10 ^ 3 :=
    (List.length_filter_le _ _).trans_lt hlength
  by_cases hnone : ofType svNotify t = []
  · rw [(prints_nil hnone).mp hprints, List.mem_singleton] at hsentence
    simp only [hsentence, checked, blankPayload, hexByte, nmeaSentenceMaxLength,
      List.length_append, List.length_cons, List.length_nil]
    omega
  · obtain ⟨parts, hdivides, hparts, rfl⟩ := (prints_of_ne_nil hnone).mp hprints
    obtain ⟨i, hi, rfl⟩ := List.mem_mapIdx.mp hsentence
    have hceil : (ofType svNotify t).length ⌈/⌉ 4 < 10 ^ 3 := by
      rw [Nat.ceilDiv_eq_add_pred_div]
      omega
    have hpart := hdivides.bounds _ (List.getElem_mem hi)
    have hsvs : (parts[i].flatMap (svText (svIdOffset t))).length ≤ 4 * 22 := by
      have hsum := List.sum_le_card_nsmul (parts[i].map fun sv =>
        (svText (svIdOffset t) sv).length) 22 (by
          intro k hk
          obtain ⟨sv, hsv, rfl⟩ := List.mem_map.mp hk
          have hmem : sv ∈ ofType svNotify t := by
            rw [← hdivides.flatten]
            exact List.mem_flatten_of_mem (List.getElem_mem hi) hsv
          exact length_svText (hrange sv (List.mem_of_mem_filter hmem)))
      rw [List.length_map, smul_eq_mul] at hsum
      rw [List.length_flatMap]
      omega
    have htotal := length_digits (by omega) hceil
    have hnumber : (digits (i + 1)).length ≤ 4 := length_digits (by omega) (by omega)
    have hn : (zeroPad 2 (ofType svNotify t).length).length ≤ 4 :=
      length_zeroPad (by omega) (by omega) hcount
    have hsystem := length_systemText (t := t)
    simp only [checked, payload, gsvHeader, hexByte, nmeaSentenceMaxLength, List.length_append,
      List.length_cons, List.length_nil]
    omega

end Ranges

/-- **The GSV sentences.**  For every report whose sentences fit the buffer, and whatever the shifts
give that are not defined: the sentences of the five constellations come one after the other; each
constellation is printed in order, four satellites to a sentence but for the last, with the right
numbers; and each sentence ends with the checksum of what stands between `$` and `*`. -/
theorem gsv_sentences (wild : ℤ → BitVec 32) (svNotify : List GnssSv) (hfits : Fits svNotify) :
    (∃ sentences : GnssSvType → List (List Char),
      (loc_nmea_generate_sv wild svNotify).1 = constellations.flatMap sentences ∧
      ∀ t ∈ constellations, Prints t (ofType svNotify t) (sentences t)) ∧
    ∀ sentence ∈ (loc_nmea_generate_sv wild svNotify).1, ∃ payload : List Char,
      '$' ∉ payload ∧ '*' ∉ payload ∧
        sentence = '$' :: payload ++ '*' :: hexByte (checksum payload) ++ ['\r', '\n'] := by
  have hprints : ∀ t ∈ constellations,
      Prints t (ofType svNotify t) (gsv (countSv wild svNotify) svNotify t) :=
    fun t ht => gsv_prints ht (count_countSv ht) (hfits t ht)
  refine ⟨⟨_, rfl, hprints⟩, fun sentence hsentence => ?_⟩
  obtain ⟨t, ht, hmem⟩ := List.mem_flatMap.mp hsentence
  exact framed_of_prints (hprints t ht) hmem

/-- Five satellites of GPS, with one of GLONASS between them. -/
def sky : List GnssSv :=
  [⟨1, .gps, some 40, 45, 90, 0⟩, ⟨3, .gps, none, 10, 20, 0⟩, ⟨8, .glonass, some 35, 60, 300, 0⟩,
    ⟨7, .gps, some 25, 5, 180, 0⟩, ⟨12, .gps, some 30, 85, 0, 0⟩, ⟨30, .gps, some 44, 33, 270, 0⟩]

/-- The satellites of this sky fit, and are printed. -/
theorem sky_sentences :
    (∃ sentences : GnssSvType → List (List Char),
      (loc_nmea_generate_sv (fun _ => 0) sky).1 = constellations.flatMap sentences ∧
      ∀ t ∈ constellations, Prints t (ofType sky t) (sentences t)) ∧
    ∀ sentence ∈ (loc_nmea_generate_sv (fun _ => 0) sky).1, ∃ payload : List Char,
      '$' ∉ payload ∧ '*' ∉ payload ∧
        sentence = '$' :: payload ++ '*' :: hexByte (checksum payload) ++ ['\r', '\n'] := by
  refine gsv_sentences (fun _ => 0) sky (fits_of_inRange (by decide) fun sv hsv => ?_)
  simp only [sky, List.mem_cons, List.not_mem_nil, or_false] at hsv
  rcases hsv with rfl | rfl | rfl | rfl | rfl | rfl <;> exact ⟨by decide, by decide, by decide⟩

end Gps.LocNmea
