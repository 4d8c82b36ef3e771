import OcnDevice.Gps.LocCfg.Load

/-!
# Strings edited in place

`loc_util_trim_space` and `loc_util_split_string` edit a string where it stands, with pointers that
move through the memory.  The loops of the former and of `strlen` stop at a NUL; they are given a
bound on their passes, and that it is enough is part of what is said of them.

Trimming follows the scan of a list (`Follows`), and so does what that does: a string with a
character other than spaces is stripped, but one of spaces only is left as it is (`trim_eq`).
Splitting cuts the string into pieces one after another (`Cut`); it goes as far as the length says,
which is an `int`.  Both are right exactly where neither of the two matters (`edits_right_iff`).
-/

open CString

namespace Gps.MiscUtils

/-! ## Trimming -/

/-- The variables of `loc_util_trim_space`, with the memory. -/
structure Trim where
  mem : ℕ → Char
  scanPtr : ℕ
  writePtr : ℕ
  firstNonspace : Option ℕ := none
  lastNonspace : Option ℕ := none

/-- One pass of its loop. -/
def Trim.pass (t : Trim) : Trim :=
  let firstNonspace :=
    if isspace (t.mem t.scanPtr) = false ∧ t.firstNonspace = none then some t.scanPtr
    else t.firstNonspace
  if firstNonspace.isSome then
    let mem := Function.update t.mem t.writePtr (t.mem t.scanPtr)
    { mem
      scanPtr := t.scanPtr + 1
      writePtr := t.writePtr + 1
      firstNonspace
      lastNonspace := if isspace (mem t.scanPtr) then t.lastNonspace else some (t.writePtr + 1) }
  else { t with scanPtr := t.scanPtr + 1 }

/-- The loop. -/
def trimLoop : ℕ → Trim → Option Trim
  | 0, _ => none
  | fuel + 1, t => if t.mem t.scanPtr = NUL then some t else trimLoop fuel t.pass

/-- `loc_util_trim_space`: the memory then. -/
def locUtilTrimSpace (fuel : ℕ) (orgString : Option ℕ) (m : ℕ → Char) : Option (ℕ → Char) :=
  match orgString with
  | none => some m
  | some o =>
      (trimLoop fuel { mem := m, scanPtr := o, writePtr := o }).map fun t =>
        match t.lastNonspace with
        | some p => Function.update t.mem p NUL
        | none => t.mem

/-! ## Splitting -/

/-- What `loc_util_split_string` changes. -/
structure Split where
  mem : ℕ → Char
  splitStringsPtr : ℕ → ℕ
  numSplitStrings : ℕ

section Split

variable (rawString : ℕ) (rawStringLength maxNumSubstrings : ℤ) (delimiter : Char)

/-- A piece ends at an index; the next one begins behind it, if there may be one. -/
def Split.finish (s : Split) (rawStringIndex : ℕ) : Split × Bool :=
  let mem := Function.update s.mem (rawString + rawStringIndex) NUL
  let numSplitStrings := s.numSplitStrings + 1
  if (rawStringIndex + 1 : ℤ) < rawStringLength ∧ (numSplitStrings : ℤ) < maxNumSubstrings then
    ({ mem
       splitStringsPtr :=
         Function.update s.splitStringsPtr numSplitStrings (rawString + rawStringIndex + 1)
       numSplitStrings }, true)
  else ({ s with mem, numSplitStrings }, false)

/-- The loop from an index on, with the passes that are left. -/
def splitLoop : ℕ → ℕ → Split → Split
  | 0, _, s => s
  | n + 1, rawStringIndex, s =>
      let endString := s.mem (rawString + rawStringIndex) = NUL
      if s.mem (rawString + rawStringIndex) = delimiter ∨ endString then
        let r := s.finish rawString rawStringLength maxNumSubstrings rawStringIndex
        if r.2 = true ∧ ¬endString then splitLoop n (rawStringIndex + 1) r.1 else r.1
      else splitLoop n (rawStringIndex + 1) s

end Split

/-- `loc_util_split_string`: what is returned, the memory, and the pointers.  The length of the
string is kept in an `int`. -/
def locUtilSplitString (fuel : ℕ) (rawString : Option ℕ) (splitStringsPtr : Option (ℕ → ℕ))
    (maxNumSubstrings : ℤ) (delimiter : Char) (m : ℕ → Char) :
    Option (ℤ × (ℕ → Char) × Option (ℕ → ℕ)) :=
  match rawString, splitStringsPtr with
  | some raw, some ptr =>
      (strlen m fuel raw).map fun (len : ℕ) =>
        let rawStringLength := ((len : ℤ) + 1).bmod (2 ^ 32)
        let s := splitLoop raw rawStringLength maxNumSubstrings delimiter rawStringLength.toNat 0
          ⟨m, Function.update ptr 0 raw, 0⟩
        (s.numSplitStrings, s.mem, some s.splitStringsPtr)
  | _, _ => some (-1, m, splitStringsPtr)

/-! ## Statement -/

/-- A string is stripped where it stands, and to trim it once more makes no difference. -/
structure TrimRight (s : List Char) (fuel o : ℕ) (m : ℕ → Char) : Prop where
  strips : ∃ m', locUtilTrimSpace fuel (some o) m = some m' ∧ StringAt m' o (strip s)
  idempotent : ∃ m' m'' t, locUtilTrimSpace fuel (some o) m = some m' ∧
    locUtilTrimSpace fuel (some o) m' = some m'' ∧ StringAt m' o t ∧ StringAt m'' o t

/-- A string is split where it stands: into as many pieces as it has, or as there may be.  Put
together with the delimiters they are the string, as far as it was scanned, and none has the
delimiter in it. -/
def SplitRight (s : List Char) (maxNumSubstrings : ℤ) (delimiter : Char) (fuel raw : ℕ)
    (m : ℕ → Char) (ptr : ℕ → ℕ) : Prop :=
  ∃ (num : ℤ) (m' : ℕ → Char) (ptr' : ℕ → ℕ) (pieces : List (List Char)) (rest : List Char),
    locUtilSplitString fuel (some raw) (some ptr) maxNumSubstrings delimiter m =
      some (num, m', some ptr') ∧
    num = min maxNumSubstrings (s.count delimiter + 1) ∧ (pieces.length : ℤ) = num ∧
    (∀ k piece, pieces[k]? = some piece → StringAt m' (ptr' k) piece ∧ delimiter ∉ piece) ∧
    [delimiter].intercalate pieces ++ rest = s ∧ (rest = [] ∨ rest.head? = some delimiter)

/-- **A string is edited right**, wherever it stands. -/
def EditsRight (s : List Char) : Prop :=
  ∀ m o fuel, StringAt m o s → s.length < fuel →
    TrimRight s fuel o m ∧
      ∀ maxNumSubstrings delimiter ptr, 1 ≤ maxNumSubstrings →
        SplitRight s maxNumSubstrings delimiter fuel o m ptr

/-! ## The scan for spaces -/

section Trim

variable {m : ℕ → Char} {o n fuel : ℕ} {sc : LocCfg.Scan} {rest s : List Char} {c : Char} {t : Trim}

/-- The loop has come `n` characters far, and `sc` is the scan of these. -/
structure Follows (m : ℕ → Char) (o n : ℕ) (sc : LocCfg.Scan) (rest : List Char) (t : Trim) :
    Prop where
  scan : t.scanPtr = o + n
  write : t.writePtr = o + sc.written.length
  first : t.firstNonspace.isSome = sc.firstNonspace
  last : t.lastNonspace = sc.lastNonspace.map (o + ·)
  written : CharsAt t.mem o sc.written
  behind : StringAt t.mem (o + n) rest
  le : sc.written.length ≤ n
  same : sc.firstNonspace = false → t.mem = m

/-- **A pass follows the scan.** -/
lemma Follows.pass (h : Follows m o n sc (c :: rest) t) :
    Follows m o (n + 1) (sc.step c) rest t.pass := by
  obtain ⟨hc, hnul, hbehind⟩ := h.behind
  have hread : t.mem t.scanPtr = c := by rw [h.scan, hc]
  have hfirst : (if isspace c = false ∧ t.firstNonspace = none then some t.scanPtr
      else t.firstNonspace).isSome = (sc.firstNonspace || !isspace c) := by
    rw [← h.first]
    cases t.firstNonspace <;> cases isspace c <;> rfl
  cases hnew : sc.firstNonspace || !isspace c with
  | false =>
      have hstep : sc.step c = sc := by rw [LocCfg.Scan.step, hnew, if_neg Bool.false_ne_true]
      have hpass : t.pass = { t with scanPtr := t.scanPtr + 1 } := by
        rw [Trim.pass, hread, hfirst, hnew, if_neg Bool.false_ne_true]
      rw [hstep, hpass]
      exact ⟨by rw [h.scan, add_assoc], h.write, h.first, h.last, h.written, hbehind,
        h.le.trans (Nat.le_succ n), h.same⟩
  | true =>
      have hstep : sc.step c = ⟨true, sc.written ++ [c],
          if isspace c then sc.lastNonspace else some (sc.written.length + 1)⟩ := by
        rw [LocCfg.Scan.step, hnew, if_pos rfl]
      have hagain : Function.update t.mem t.writePtr c t.scanPtr = c := by
        rw [Function.update_apply]
        split_ifs
        · rfl
        · exact hread
      have hpass : t.pass = ⟨Function.update t.mem t.writePtr c, t.scanPtr + 1, t.writePtr + 1,
          if isspace c = false ∧ t.firstNonspace = none then some t.scanPtr else t.firstNonspace,
          if isspace c then t.lastNonspace else some (t.writePtr + 1)⟩ := by
        rw [Trim.pass, hread, hfirst, hnew, if_pos rfl]
        dsimp only
        rw [hagain]
      have hle := h.le
      rw [hstep, hpass]
      constructor
      · rw [h.scan, add_assoc]
      · rw [h.write, List.length_append, add_assoc]
        rfl
      · exact hfirst.trans hnew
      · rw [h.last, h.write]
        cases isspace c <;> rfl
      · rw [h.write]
        exact h.written.concat hnul
      · refine hbehind.congr fun i hi _ => Function.update_of_ne ?_ _ _
        rw [h.write]
        omega
      · rw [List.length_append, List.length_singleton]
        omega
      · exact fun hfalse => Bool.noConfusion hfalse

/-- **The loop follows the scan** to the end of the string. -/
lemma trimLoop_eq (h : Follows m o n sc rest t) (hfuel : rest.length < fuel) :
    ∃ t', trimLoop fuel t = some t' ∧
      Follows m o (n + rest.length) (rest.foldl LocCfg.Scan.step sc) [] t' := by
  induction rest generalizing n sc t fuel with
  | nil =>
      obtain ⟨fuel, rfl⟩ : ∃ k, fuel = k + 1 := Nat.exists_eq_succ_of_ne_zero (by omega)
      exact ⟨t, if_pos (h.scan ▸ h.behind), h⟩
  | cons c rest ih =>
      obtain ⟨fuel, rfl⟩ : ∃ k, fuel = k + 1 := Nat.exists_eq_succ_of_ne_zero (by omega)
      rw [List.length_cons] at hfuel
      have hgo : t.mem t.scanPtr ≠ NUL := by
        rw [h.scan, h.behind.1]
        exact h.behind.2.1
      obtain ⟨t', hloop, hend⟩ := ih h.pass (show rest.length < fuel by omega)
      refine ⟨t', by rw [trimLoop, if_neg hgo, hloop], ?_⟩
      rwa [List.length_cons, List.foldl_cons, add_comm rest.length, ← add_assoc]

/-- A string of spaces only is left as it is. -/
lemma trimmed_blank (h : Blank s) : LocCfg.locUtilTrimSpace s = s := by
  have hdrop : s.dropWhile isspace = [] := List.dropWhile_eq_nil_iff.mpr h
  rw [LocCfg.locUtilTrimSpace, LocCfg.scan_eq]
  simp only [if_pos hdrop]

/-- **What trimming does**: the same as with a list, where the string stands. -/
theorem trim_eq (h : StringAt m o s) (hfuel : s.length < fuel) :
    ∃ m', locUtilTrimSpace fuel (some o) m = some m' ∧
      StringAt m' o (LocCfg.locUtilTrimSpace s) := by
  have hstart : Follows m o 0 ⟨false, [], none⟩ s { mem := m, scanPtr := o, writePtr := o } :=
    ⟨rfl, rfl, rfl, rfl, trivial, h, le_rfl, fun _ => rfl⟩
  obtain ⟨t, hloop, hend⟩ := trimLoop_eq hstart hfuel
  rw [LocCfg.scan_eq] at hend
  have hlast := hend.last
  rw [locUtilTrimSpace, hloop, Option.map_some]
  by_cases hblank : s.dropWhile isspace = []
  · have hmem : t.mem = m := hend.same (by simpa using hblank)
    rw [hlast, if_pos hblank, Option.map_none, trimmed_blank (List.dropWhile_eq_nil_iff.mp hblank)]
    exact ⟨t.mem, rfl, hmem ▸ h⟩
  · have hnot : ¬Blank s := fun hb => hblank (List.dropWhile_eq_nil_iff.mpr hb)
    obtain ⟨tail, htail⟩ := List.rdropWhile_prefix isspace (s.dropWhile isspace)
    have hchars := hend.written
    rw [← htail] at hchars
    rw [hlast, if_neg hblank, Option.map_some, LocCfg.locUtilTrimSpace_eq hnot]
    exact ⟨_, rfl, (charsAt_append.mp hchars).1.close⟩

/-- A string that begins with another character than a space keeps it when spaces behind it are
taken away. -/
lemma rdropWhile_cons (hc : isspace c = false) :
    (c :: s).rdropWhile isspace = c :: s.rdropWhile isspace := by
  rw [List.rdropWhile, List.rdropWhile, List.reverse_cons, List.dropWhile_append]
  split_ifs with hnil
  · rw [List.isEmpty_iff.mp hnil]
    simp [hc]
  · rw [List.reverse_append, List.reverse_singleton, List.singleton_append]

/-- What is stripped begins with another character than a space, and stays as it is. -/
lemma strip_strip (h : ¬Blank s) : ¬Blank (strip s) ∧ strip (strip s) = strip s := by
  obtain ⟨c, tail, hdrop⟩ := List.exists_cons_of_ne_nil (dropWhile_ne_nil h)
  have hc : isspace c = false := by
    have hhead := List.head_dropWhile_not isspace (l := s) (by rw [hdrop]; simp)
    simpa [hdrop] using hhead
  have hstrip : strip s = c :: tail.rdropWhile isspace := by rw [strip, hdrop, rdropWhile_cons hc]
  constructor
  · intro hblank
    have htrue : isspace c = true := hblank c (hstrip ▸ List.mem_cons_self)
    rw [hc] at htrue
    cases htrue
  · rw [hstrip, strip, List.dropWhile_cons_of_neg (by simp [hc]), rdropWhile_cons hc,
      List.rdropWhile_idempotent]

/-- To trim a list once more makes no difference. -/
lemma trimmed_trimmed (s : List Char) :
    LocCfg.locUtilTrimSpace (LocCfg.locUtilTrimSpace s) = LocCfg.locUtilTrimSpace s := by
  by_cases h : Blank s
  · rw [trimmed_blank h, trimmed_blank h]
  · obtain ⟨hnot, hsame⟩ := strip_strip h
    rw [LocCfg.locUtilTrimSpace_eq h, LocCfg.locUtilTrimSpace_eq hnot, hsame]

/-- Trimming makes no string longer. -/
lemma length_trimmed (s : List Char) : (LocCfg.locUtilTrimSpace s).length ≤ s.length := by
  by_cases h : Blank s
  · rw [trimmed_blank h]
  · rw [LocCfg.locUtilTrimSpace_eq h]
    exact ((List.rdropWhile_prefix ..).length_le).trans (List.dropWhile_suffix _).length_le

/-- **A string is trimmed right** unless it is of spaces only, and is not empty. -/
lemma trimRight_iff (h : StringAt m o s) (hfuel : s.length < fuel) :
    TrimRight s fuel o m ↔ (Blank s → s = []) := by
  obtain ⟨m', htrim, hat⟩ := trim_eq h hfuel
  constructor
  · intro hright hblank
    obtain ⟨m'', htrim', hat'⟩ := hright.strips
    rw [htrim, Option.some.injEq] at htrim'
    rw [← htrim'] at hat'
    have hdrop : s.dropWhile isspace = [] := List.dropWhile_eq_nil_iff.mpr hblank
    have hstrip := hat.unique hat'
    rwa [trimmed_blank hblank, strip, hdrop, List.rdropWhile_nil] at hstrip
  · intro hs
    have hfit : (LocCfg.locUtilTrimSpace s).length < fuel := (length_trimmed s).trans_lt hfuel
    obtain ⟨m'', htrim', hat'⟩ := trim_eq hat hfit
    rw [trimmed_trimmed] at hat'
    refine ⟨⟨m', htrim, ?_⟩, ⟨m', m'', _, htrim, htrim', hat, hat'⟩⟩
    by_cases hblank : Blank s
    · rwa [hs hblank] at hat ⊢
    · rwa [LocCfg.locUtilTrimSpace_eq hblank] at hat

end Trim

/-! ## The pieces -/

section Split

variable {m : ℕ → Char} {raw i fuel : ℕ} {len max : ℤ} {d : Char} {pieces : List (List Char)}
  {cur rest s : List Char} {t : Split}

/-- The loop has come to an index: some pieces are done, and of the next one there are some
characters. -/
structure Cut (raw i : ℕ) (d : Char) (pieces : List (List Char)) (cur : List Char) (t : Split) :
    Prop where
  num : t.numSplitStrings = pieces.length
  start : t.splitStringsPtr pieces.length + cur.length = raw + i
  current : CharsAt t.mem (t.splitStringsPtr pieces.length) cur
  free : d ∉ cur
  done : ∀ k piece, pieces[k]? = some piece →
    StringAt t.mem (t.splitStringsPtr k) piece ∧ t.splitStringsPtr k + piece.length < raw + i ∧
      d ∉ piece

/-- The memory has pieces, at the places of the pointers. -/
def Pieces (d : Char) (pieces : List (List Char)) (t : Split) : Prop :=
  t.numSplitStrings = pieces.length ∧
    ∀ k piece, pieces[k]? = some piece → StringAt t.mem (t.splitStringsPtr k) piece ∧ d ∉ piece

/-- The piece at the end is done. -/
lemma Cut.closed (h : Cut raw i d pieces cur t) {k : ℕ} {piece : List Char}
    (hk : (pieces ++ [cur])[k]? = some piece) :
    StringAt (Function.update t.mem (raw + i) NUL) (t.splitStringsPtr k) piece ∧
      t.splitStringsPtr k + piece.length < raw + (i + 1) ∧ d ∉ piece := by
  rcases Nat.lt_trichotomy k pieces.length with hlt | rfl | hgt
  · rw [List.getElem?_append_left hlt] at hk
    obtain ⟨hat, hbefore, hfree⟩ := h.done k piece hk
    exact ⟨hat.congr fun j _ hj => Function.update_of_ne (by omega) .., by omega, hfree⟩
  · rw [List.getElem?_append_right le_rfl, Nat.sub_self, List.getElem?_cons_zero,
      Option.some.injEq] at hk
    have hstart := h.start
    subst hk
    refine ⟨hstart ▸ h.current.close, by omega, h.free⟩
  · have hlen : (pieces ++ [cur]).length ≤ k := by
      rw [List.length_append, List.length_singleton]
      omega
    rw [List.getElem?_eq_none hlen] at hk
    cases hk

lemma finish_mem :
    (t.finish raw len max i).1.mem = Function.update t.mem (raw + i) NUL := by
  rw [Split.finish]
  split_ifs <;> rfl

/-- The last piece that there may be. -/
lemma Cut.stop (h : Cut raw i d pieces cur t) (len max : ℤ)
    (hstop : ¬((i + 1 : ℤ) < len ∧ ((pieces.length + 1 : ℕ) : ℤ) < max)) :
    (t.finish raw len max i).2 = false ∧ Pieces d (pieces ++ [cur]) (t.finish raw len max i).1 := by
  rw [Split.finish, h.num, if_neg hstop]
  refine ⟨rfl, ?_, fun k piece hk => ?_⟩
  · rw [List.length_append, List.length_singleton]
  · obtain ⟨hat, -, hfree⟩ := h.closed hk
    exact ⟨hat, hfree⟩

/-- A piece with another one behind it. -/
lemma Cut.go (h : Cut raw i d pieces cur t) (len max : ℤ)
    (hgo : (i + 1 : ℤ) < len ∧ ((pieces.length + 1 : ℕ) : ℤ) < max) :
    (t.finish raw len max i).2 = true ∧
      Cut raw (i + 1) d (pieces ++ [cur]) [] (t.finish raw len max i).1 := by
  have hlen : (pieces ++ [cur]).length = pieces.length + 1 := List.length_append
  rw [Split.finish, h.num, if_pos hgo]
  refine ⟨rfl, hlen.symm, ?_, trivial, List.not_mem_nil, fun k piece hk => ?_⟩
  · dsimp only
    rw [hlen, Function.update_self]
    rfl
  · have hlt : k < (pieces ++ [cur]).length := (List.getElem?_eq_some_iff.mp hk).1
    dsimp only
    rw [Function.update_of_ne (by omega)]
    exact h.closed hk

/-- Another character of a piece. -/
lemma Cut.more (h : Cut raw i d pieces cur t) {c : Char} (hread : t.mem (raw + i) = c)
    (hnul : c ≠ NUL) (hne : c ≠ d) : Cut raw (i + 1) d pieces (cur ++ [c]) t := by
  have hstart := h.start
  refine ⟨h.num, ?_, ?_, ?_, fun k piece hk => ?_⟩
  · rw [List.length_append, List.length_singleton]
    omega
  · refine charsAt_append.mpr ⟨h.current, ?_, hnul, trivial⟩
    rw [hstart, hread]
  · have hfree := h.free
    simp [hfree, hne.symm]
  · obtain ⟨hat, hbefore, hfree⟩ := h.done k piece hk
    exact ⟨hat, by omega, hfree⟩

/-- Pieces with a delimiter in front of all but the first. -/
lemma intercalate_cons {ps : List (List Char)} (hne : ps ≠ []) :
    [d].intercalate (cur :: ps) = cur ++ d :: [d].intercalate ps := by
  obtain ⟨p, ps, rfl⟩ := List.exists_cons_of_ne_nil hne
  rw [List.intercalate_cons_cons, List.append_assoc, List.singleton_append]

/-- **What the loop does**: it cuts what is left of the string into pieces, up to its end or as many
as there may be.  The induction is on what is left. -/
lemma splitLoop_eq (h : Cut raw i d pieces cur t) (hrest : StringAt t.mem (raw + i) rest)
    (hlen : len = i + rest.length + 1) (hmax : (pieces.length : ℤ) < max) :
    ∃ ps tail, Pieces d (pieces ++ ps) (splitLoop raw len max d (rest.length + 1) i t) ∧
      [d].intercalate ps ++ tail = cur ++ rest ∧
      (tail = [] ∧ ps.length = rest.count d + 1 ∧ ((pieces ++ ps).length : ℤ) ≤ max ∨
        tail.head? = some d ∧ ps.length ≤ rest.count d ∧ ((pieces ++ ps).length : ℤ) = max) := by
  induction rest generalizing i pieces cur t with
  | nil =>
      have hnul : t.mem (raw + i) = NUL := hrest
      obtain ⟨hfalse, hpieces⟩ := h.stop len max (by simp [hlen])
      refine ⟨[cur], [], ?_, by simp, Or.inl ⟨rfl, rfl, ?_⟩⟩
      · rw [splitLoop, if_pos (Or.inr hnul)]
        simpa [hfalse] using hpieces
      · rw [List.length_append, List.length_singleton]
        omega
  | cons c rest ih =>
      obtain ⟨hread, hnul, hbehind⟩ := hrest
      rw [List.length_cons] at hlen ⊢
      have hgoes : ¬t.mem (raw + i) = NUL := by rwa [hread]
      rcases eq_or_ne c d with rfl | hne
      · rw [splitLoop, if_pos (Or.inl hread)]
        by_cases hgo : ((pieces.length + 1 : ℕ) : ℤ) < max
        · obtain ⟨htrue, hcut⟩ := h.go len max ⟨by omega, hgo⟩
          have hmem : StringAt (t.finish raw len max i).1.mem (raw + (i + 1)) rest := by
            rw [finish_mem]
            exact hbehind.congr fun j hj _ => Function.update_of_ne (by omega) ..
          obtain ⟨ps, tail, hpieces, hjoin, hend⟩ := ih hcut hmem (by omega) (by
            rw [List.length_append, List.length_singleton]
            exact hgo)
          have hassoc : pieces ++ [cur] ++ ps = pieces ++ cur :: ps := by simp
          have hne : ps ≠ [] := by
            rintro rfl
            rw [List.length_append, List.length_append] at hend
            rcases hend with ⟨-, hcount, -⟩ | ⟨-, -, hfull⟩
            · simp at hcount
            · simp at hfull hgo
              omega
          rw [hassoc] at hpieces hend
          refine ⟨cur :: ps, tail, ?_, ?_, ?_⟩
          · simpa [htrue, hgoes] using hpieces
          · rw [intercalate_cons hne, List.append_assoc, List.cons_append, hjoin, List.nil_append]
          · rw [List.count_cons_self, List.length_cons]
            exact hend.imp (fun ⟨htail, hcount, hle⟩ => ⟨htail, by omega, hle⟩)
              fun ⟨htail, hcount, hfull⟩ => ⟨htail, by omega, hfull⟩
        · obtain ⟨hfalse, hpieces⟩ := h.stop len max fun hboth => hgo hboth.2
          refine ⟨[cur], c :: rest, ?_, by simp, Or.inr ⟨rfl, ?_, ?_⟩⟩
          · simpa [hfalse] using hpieces
          · rw [List.count_cons_self, List.length_singleton]
            omega
          · rw [List.length_append, List.length_singleton]
            omega
      · have hskip : ¬(t.mem (raw + i) = d ∨ t.mem (raw + i) = NUL) := by
          rw [hread]
          exact not_or.mpr ⟨hne, hnul⟩
        obtain ⟨ps, tail, hpieces, hjoin, hend⟩ :=
          ih (h.more hread hnul hne) hbehind (by omega) hmax
        rw [List.count_cons_of_ne hne]
        refine ⟨ps, tail, ?_, ?_, hend⟩
        · rwa [splitLoop, if_neg hskip]
        · rw [hjoin, List.append_assoc]
          rfl

/-- Characters that end no piece are passed over. -/
lemma splitLoop_skip {n : ℕ} (h : ∀ j < n, t.mem (raw + i + j) ≠ d ∧ t.mem (raw + i + j) ≠ NUL) :
    splitLoop raw len max d n i t = t := by
  induction n generalizing i with
  | zero => rfl
  | succ n ih =>
      have hskip : ¬(t.mem (raw + i) = d ∨ t.mem (raw + i) = NUL) := not_or.mpr (h 0 (by omega))
      rw [splitLoop, if_neg hskip]
      refine ih fun j hj => ?_
      rw [show raw + (i + 1) + j = raw + i + (j + 1) by omega]
      exact h (j + 1) (by omega)

/-- **A string is split right** when its length fits an `int`. -/
lemma splitRight {ptr : ℕ → ℕ} (h : StringAt m raw s) (hfuel : s.length < fuel)
    (hfit : s.length + 1 < 2 ^ 31) (hmax : 1 ≤ max) : SplitRight s max d fuel raw m ptr := by
  have hlen : ((s.length : ℤ) + 1).bmod (2 ^ 32) = s.length + 1 :=
    Int.bmod_eq_of_le (by omega) (by omega)
  have hpasses : ((s.length : ℤ) + 1).toNat = s.length + 1 := by omega
  have hcut : Cut raw 0 d [] [] ⟨m, Function.update ptr 0 raw, 0⟩ :=
    ⟨rfl, rfl, trivial, List.not_mem_nil, fun k piece hk => by simp at hk⟩
  have hpassed : ((s.length : ℤ) + 1) = (0 : ℕ) + s.length + 1 := by omega
  have hnone : (([] : List (List Char)).length : ℤ) < max := by
    rw [List.length_nil]
    omega
  obtain ⟨ps, tail, ⟨hnum, hpieces⟩, hjoin, hend⟩ := splitLoop_eq hcut h hpassed hnone
  rw [List.nil_append] at hnum hpieces hend
  refine ⟨ps.length, _, _, ps, tail, ?_, by omega, rfl, hpieces, hjoin, hend.imp And.left And.left⟩
  rw [locUtilSplitString, strlen_eq h hfuel, Option.map_some]
  dsimp only
  rw [hlen, hpasses, hnum]

/-- A longer string is not split at all where it has no delimiter. -/
lemma not_splitRight {ptr : ℕ → ℕ} (h : StringAt m raw s) (hfuel : s.length < fuel)
    (hlong : 2 ^ 31 ≤ s.length + 1) : ¬SplitRight s 1 NUL fuel raw m ptr := by
  rintro ⟨num, m', ptr', pieces, rest, hsplit, hnum, -⟩
  have hpasses : (((s.length : ℤ) + 1).bmod (2 ^ 32)).toNat ≤ s.length := by
    have hlt := Int.bmod_lt (x := (s.length : ℤ) + 1) (m := 2 ^ 32) (by omega)
    omega
  have hskip : ∀ len, splitLoop raw len 1 NUL (((s.length : ℤ) + 1).bmod (2 ^ 32)).toNat 0
      ⟨m, Function.update ptr 0 raw, 0⟩ = ⟨m, Function.update ptr 0 raw, 0⟩ := by
    intro len
    refine splitLoop_skip fun j hj => ?_
    have hne := h.ne_nul j (by omega)
    exact ⟨hne, hne⟩
  rw [locUtilSplitString, strlen_eq h hfuel, Option.map_some] at hsplit
  dsimp only at hsplit
  rw [hskip] at hsplit
  cases hsplit
  rw [Nat.cast_zero] at hnum
  omega

end Split

/-! ## Result -/

/-- **A string is edited right** exactly if it is empty or has a character other than spaces, and it
fits an `int`. -/
theorem edits_right_iff {s : List Char} (hs : NUL ∉ s) :
    EditsRight s ↔ (Blank s → s = []) ∧ s.length + 1 < 2 ^ 31 := by
  constructor
  · intro h
    have hat := stringAt_getD hs
    obtain ⟨htrim, hsplit⟩ := h _ 0 (s.length + 1) hat (Nat.lt_succ_self _)
    refine ⟨(trimRight_iff hat (Nat.lt_succ_self _)).mp htrim, ?_⟩
    by_contra hlong
    exact not_splitRight hat (Nat.lt_succ_self _) (not_lt.mp hlong) (hsplit 1 NUL id le_rfl)
  · rintro ⟨hblank, hfit⟩ m o fuel hat hfuel
    refine ⟨(trimRight_iff hat hfuel).mpr hblank, fun max d ptr hmax => ?_⟩
    exact splitRight hat hfuel hfit hmax

/-- A string with spaces on both sides. -/
theorem edits_right_padded : EditsRight [' ', 'a', ';', ';', 'b', ' '] :=
  (edits_right_iff (by decide)).mpr ⟨fun h => absurd (h 'a' (by simp)) (by decide), by decide⟩

/-- **A space is left where it is.** -/
theorem space_not_trimmed : NUL ∉ [' '] ∧ ¬EditsRight [' '] := by
  refine ⟨by decide, fun h => ?_⟩
  have hat : StringAt (fun i => [' '].getD i NUL) 0 [' '] := stringAt_getD (by decide)
  obtain ⟨m', htrim, hempty⟩ := (h _ 0 2 hat (by decide)).1.strips
  have hsame : locUtilTrimSpace 2 (some 0) (fun i => [' '].getD i NUL) =
      some fun i => [' '].getD i NUL := rfl
  rw [hsame, Option.some.injEq] at htrim
  rw [← htrim] at hempty
  have hspace : ' ' = NUL := hempty
  exact absurd hspace (by decide)

end Gps.MiscUtils
