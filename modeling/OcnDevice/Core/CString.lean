import Mathlib

/-!
# Strings of C

A string is the list of its characters, without the NUL behind them.  `strtok` is a call of
`strtok_r`, with what the next call goes on with; `fgets` is a call with what is left of the file.

What repeated calls give is said by the pieces that `List.splitOn` cuts a string into: `strtok`
gives the pieces that are not empty one after another (`strtok_eq_some`, `strtok_eq_none`), and
`fgets` a piece with the newline behind it (`fgets_line`), or without when the buffer is too short
for both (`fgets_full`).

Where code goes over a string in place, `StringAt` says which string stands in a memory of
characters at a place, and `CharsAt` which characters stand there that may go on.  Characters can be
added to these (`CharsAt.concat`), and a NUL behind them makes a string of them (`CharsAt.close`).
-/

namespace CString

/-! ## Characters -/

/-- `isspace`. -/
def isspace (c : Char) : Bool :=
  c = ' ' ∨ c = '\t' ∨ c = '\n' ∨ c.toNat = 11 ∨ c.toNat = 12 ∨ c = '\r'

/-- The value of a digit. -/
def digitVal (base : ℕ) (c : Char) : Option ℕ :=
  let v :=
    if '0' ≤ c ∧ c ≤ '9' then c.toNat - '0'.toNat
    else if 'a' ≤ c ∧ c ≤ 'z' then c.toNat - 'a'.toNat + 10
    else if 'A' ≤ c ∧ c ≤ 'Z' then c.toNat - 'A'.toNat + 10
    else base
  if v < base then some v else none

/-! ## Numbers -/

/-- The number that a string starts with, saturated to the values of a `long`. -/
def strtol (base : ℕ) (s : List Char) : ℤ :=
  let s := s.dropWhile isspace
  let (neg, s) :=
    match s with
    | '-' :: rest => (true, rest)
    | '+' :: rest => (false, rest)
    | _ => (false, s)
  let s :=
    match s with
    | '0' :: x :: d :: rest =>
        if base = 16 ∧ (x = 'x' ∨ x = 'X') ∧ (digitVal 16 d).isSome then d :: rest else s
    | _ => s
  let digits := (s.map (digitVal base)).takeWhile Option.isSome
  let n : ℤ := digits.foldl (fun (n : ℤ) d => n * base + (d.getD 0 : ℕ)) 0
  max (-2 ^ 63) (min (2 ^ 63 - 1) (if neg then -n else n))

/-- `atoi`: the number cut to an `int`. -/
def atoi (s : List Char) : ℤ := (strtol 10 s).bmod (2 ^ 32)

/-! ## Copies -/

/-- `strlcpy` into a buffer. -/
def strlcpy (size : ℕ) (s : List Char) : List Char := s.take (size - 1)

/-! ## Trimming -/

/-- A string without the spaces in front of it and behind it. -/
def strip (s : List Char) : List Char := (s.dropWhile isspace).rdropWhile isspace

/-- A string of spaces only. -/
def Blank (s : List Char) : Prop := ∀ c ∈ s, isspace c = true

instance (s : List Char) : Decidable (Blank s) := List.decidableBAll ..

section Strip

variable {s : List Char} {c : Char}

lemma dropWhile_ne_nil (h : ¬ Blank s) : s.dropWhile isspace ≠ [] :=
  fun hnil => h (List.dropWhile_eq_nil_iff.mp hnil)

/-- A space behind a string makes no difference. -/
lemma strip_concat (h : ¬ Blank s) (hc : isspace c = true) : strip (s ++ [c]) = strip s := by
  have hdrop : (s ++ [c]).dropWhile isspace = s.dropWhile isspace ++ [c] := by
    rw [List.dropWhile_append, if_neg]
    simpa using dropWhile_ne_nil h
  rw [strip, hdrop, List.rdropWhile_concat_pos _ _ _ hc, strip]

end Strip

/-! ## Tokens -/

section Strtok

variable (d : Char) {s tok rest : List Char}

/-- `strtok_r` with one delimiter: the next token, and what is behind its delimiter. -/
def strtok (s : List Char) : Option (List Char × List Char) :=
  match s.dropWhile (· == d) with
  | [] => none
  | c :: s => some (c :: s.takeWhile (· != d), (s.dropWhile (· != d)).tail)

variable {d}

/-- The first piece of a string, and the rest. -/
lemma splitOn_eq : s.splitOn d = s.takeWhile (· != d) ::
    match s.dropWhile (· != d) with
    | [] => []
    | _ :: rest => rest.splitOn d := by
  induction s with
  | nil => rfl
  | cons c s ih =>
      rw [List.splitOn_cons_eq_if_modifyHead, ih]
      rcases eq_or_ne c d with rfl | hne
      · simp [← ih]
      · simp [hne]

/-- No piece has the delimiter in it. -/
lemma not_mem_of_mem_splitOn {piece : List Char} (h : piece ∈ s.splitOn d) : d ∉ piece := by
  induction s generalizing piece with
  | nil =>
      rw [List.splitOn_nil, List.mem_singleton] at h
      simp [h]
  | cons c s ih =>
      rw [List.splitOn_cons_eq_if_modifyHead] at h
      split_ifs at h with hc
      · rcases List.mem_cons.mp h with rfl | h
        · simp
        · exact ih h
      · obtain ⟨q, qs, hq⟩ := List.exists_cons_of_ne_nil (List.splitOn_ne_nil d s)
        rw [hq] at h
        rcases List.mem_cons.mp h with rfl | h
        · have hne : d ≠ c := fun h => hc (beq_iff_eq.mpr h.symm)
          have hnot : d ∉ q := ih (hq ▸ List.mem_cons_self)
          simp [hne, hnot]
        · exact ih (hq ▸ List.mem_cons_of_mem _ h)

/-- Delimiters in front give empty pieces. -/
lemma splitOn_dropWhile : ((s.dropWhile (· == d)).splitOn d).filter (· ≠ []) =
    (s.splitOn d).filter (· ≠ []) := by
  induction s with
  | nil => rfl
  | cons c s ih =>
      rcases eq_or_ne c d with rfl | hne
      · rw [List.splitOn_cons_eq_if_modifyHead]
        simpa using ih
      · simp [hne]

lemma strtok_eq_none (h : strtok d s = none) : (s.splitOn d).filter (· ≠ []) = [] := by
  rw [← splitOn_dropWhile]
  rw [strtok] at h
  split at h
  · rename_i hs
    rw [hs]
    rfl
  · cases h

/-- **A token is the first piece** that is not empty. -/
lemma strtok_eq_some (h : strtok d s = some (tok, rest)) :
    (s.splitOn d).filter (· ≠ []) = tok :: (rest.splitOn d).filter (· ≠ []) := by
  rw [← splitOn_dropWhile]
  rw [strtok] at h
  split at h
  · cases h
  · rename_i c s' hs
    have hc : c ≠ d := by
      have hnot := List.head_dropWhile_not (· == d) (l := s) (by rw [hs]; simp)
      simpa [hs] using hnot
    cases h
    rw [hs, splitOn_eq]
    have htake : (c :: s').takeWhile (· != d) = c :: s'.takeWhile (· != d) := by simp [hc]
    have hdrop : (c :: s').dropWhile (· != d) = s'.dropWhile (· != d) := by simp [hc]
    rw [htake, hdrop]
    cases s'.dropWhile (· != d) with
    | nil => simp
    | cons e s'' => simp

/-- What is left is shorter. -/
lemma length_strtok (h : strtok d s = some (tok, rest)) : rest.length < s.length := by
  rw [strtok] at h
  split at h
  · cases h
  · rename_i c s' hs
    cases h
    have h1 : (c :: s').length ≤ s.length := hs ▸ (List.dropWhile_suffix _).length_le
    have h2 : (s'.dropWhile (· != d)).length ≤ s'.length := (List.dropWhile_suffix _).length_le
    rw [List.length_cons] at h1
    rw [List.length_tail]
    omega

/-- The token of a string that does not start with the delimiter. -/
lemma strtok_append_cons {a b : List Char} (ha : a ≠ []) (had : d ∉ a) :
    strtok d (a ++ d :: b) = some (a, b) := by
  obtain ⟨c, a, rfl⟩ := List.exists_cons_of_ne_nil ha
  have hc : c ≠ d := fun h => had (h ▸ List.mem_cons_self)
  have hall : ∀ x ∈ a, (x != d) = true := fun x hx =>
    bne_iff_ne.mpr fun h => had (h ▸ List.mem_cons_of_mem _ hx)
  simp [strtok, hc, List.takeWhile_append_of_pos hall, List.dropWhile_append_of_pos hall]

lemma strtok_of_not_mem {a : List Char} (ha : a ≠ []) (had : d ∉ a) :
    strtok d a = some (a, []) := by
  obtain ⟨c, a, rfl⟩ := List.exists_cons_of_ne_nil ha
  have hc : c ≠ d := fun h => had (h ▸ List.mem_cons_self)
  have hall : ∀ x ∈ a, (x != d) = true := fun x hx =>
    bne_iff_ne.mpr fun h => had (h ▸ List.mem_cons_of_mem _ hx)
  simp [strtok, hc, List.takeWhile_eq_self_iff.mpr hall, List.dropWhile_eq_nil_iff.mpr hall]

/-- A character behind a string changes a token only at its end. -/
lemma strtok_concat {c : Char} (hc : c ≠ d) (h : strtok d (s ++ [c]) = some (tok, rest)) :
    rest = [] ∨ ∃ rest', strtok d s = some (tok, rest') := by
  rw [strtok, List.dropWhile_append] at h
  cases hs : s.dropWhile (· == d) with
  | nil =>
      left
      simp only [hs, List.isEmpty_nil, if_true, List.dropWhile_cons, beq_eq_false_iff_ne.mpr hc,
        Bool.false_eq_true, if_false, List.dropWhile_nil, List.tail_nil, Option.some.injEq,
        Prod.mk.injEq] at h
      exact h.2.symm
  | cons x s' =>
      simp only [hs, List.isEmpty_cons, Bool.false_eq_true, if_false, List.cons_append,
        Option.some.injEq, Prod.mk.injEq] at h
      obtain ⟨rfl, rfl⟩ := h
      cases hs' : s'.dropWhile (· != d) with
      | nil =>
          left
          rw [List.dropWhile_append, hs']
          simp [hc]
      | cons y s'' =>
          right
          have htake : (s' ++ [c]).takeWhile (· != d) = s'.takeWhile (· != d) := by
            have hlen := congrArg List.length (List.takeWhile_append_dropWhile (p := (· != d))
              (l := s'))
            rw [hs', List.length_append, List.length_cons] at hlen
            rw [List.takeWhile_append, if_neg (by omega)]
          exact ⟨s'', by simp [strtok, hs, htake, hs']⟩

end Strtok

/-! ## Lines of a file -/

section Fgets

variable (size : ℕ) {s line rest : List Char}

/-- `fgets` into a buffer: what is read, and what is left of the file; none at its end. -/
def fgets (s : List Char) : Option (List Char × List Char) :=
  match s with
  | [] => none
  | _ :: _ =>
      let n := min (size - 1) ((s.takeWhile (· != '\n')).length + 1)
      some (s.take n, s.drop n)

variable {size}

lemma length_fgets (hsize : 1 < size) (h : fgets size s = some (line, rest)) :
    rest.length < s.length := by
  cases s with
  | nil => cases h
  | cons c s =>
      cases h
      rw [List.length_drop, List.length_cons]
      omega

lemma takeWhile_line {r : List Char} (hline : '\n' ∉ line) :
    (line ++ '\n' :: r).takeWhile (· != '\n') = line := by
  have hall : ∀ c ∈ line, (c != '\n') = true := fun c hc =>
    bne_iff_ne.mpr fun h => hline (h ▸ hc)
  rw [List.takeWhile_append_of_pos hall]
  simp

lemma fgets_append {r : List Char} : fgets size (line ++ '\n' :: r) =
    let n := min (size - 1) (((line ++ '\n' :: r).takeWhile (· != '\n')).length + 1)
    some ((line ++ '\n' :: r).take n, (line ++ '\n' :: r).drop n) := by
  cases line with
  | nil => rfl
  | cons c line => rfl

/-- A line that fits is read with its newline. -/
lemma fgets_line {r : List Char} (hline : '\n' ∉ line) (h : line.length + 1 < size) :
    fgets size (line ++ '\n' :: r) = some (line ++ ['\n'], r) := by
  have hn : min (size - 1) (line.length + 1) = (line ++ ['\n']).length := by
    rw [List.length_append, List.length_singleton]
    omega
  have hsplit : line ++ '\n' :: r = (line ++ ['\n']) ++ r := by simp
  rw [fgets_append, takeWhile_line hline]
  simp only [hn]
  rw [hsplit, List.take_left, List.drop_left]

/-- A line that just fits is read without its newline. -/
lemma fgets_full {r : List Char} (hline : '\n' ∉ line) (h : line.length + 1 = size) :
    fgets size (line ++ '\n' :: r) = some (line, '\n' :: r) := by
  have hn : min (size - 1) (line.length + 1) = line.length := by omega
  rw [fgets_append, takeWhile_line hline]
  simp only [hn]
  rw [List.take_left, List.drop_left]

/-- The last line is read as it is. -/
lemma fgets_last (hne : line ≠ []) (hline : '\n' ∉ line) (h : line.length < size) :
    fgets size line = some (line, []) := by
  have htake : line.takeWhile (· != '\n') = line :=
    List.takeWhile_eq_self_iff.mpr fun c hc => bne_iff_ne.mpr fun h => hline (h ▸ hc)
  have hn : line.length ≤ min (size - 1) (line.length + 1) := by omega
  obtain ⟨c, line, rfl⟩ := List.exists_cons_of_ne_nil hne
  simp only [fgets, htake]
  rw [List.take_of_length_le hn, List.drop_eq_nil_of_le hn]

end Fgets

/-! ## Strings in memory -/

section Memory

/-- The character behind a string. -/
def NUL : Char := '\x00'

/-- A string stands at a place, with the NUL behind it. -/
def StringAt (m : ℕ → Char) : ℕ → List Char → Prop
  | o, [] => m o = NUL
  | o, c :: s => m o = c ∧ c ≠ NUL ∧ StringAt m (o + 1) s

/-- Some characters stand at a place, none of them NUL. -/
def CharsAt (m : ℕ → Char) : ℕ → List Char → Prop
  | _, [] => True
  | o, c :: s => m o = c ∧ c ≠ NUL ∧ CharsAt m (o + 1) s

/-- `strlen`, with a bound on how far it looks. -/
def strlen (m : ℕ → Char) : ℕ → ℕ → Option ℕ
  | 0, _ => none
  | fuel + 1, o => if m o = NUL then some 0 else (strlen m fuel (o + 1)).map (· + 1)

variable {m m' : ℕ → Char} {o fuel : ℕ} {s t : List Char} {c : Char}

lemma stringAt_iff : StringAt m o s ↔ CharsAt m o s ∧ m (o + s.length) = NUL := by
  induction s generalizing o with
  | nil => simp [StringAt, CharsAt]
  | cons c s ih =>
      simp only [StringAt, CharsAt, ih, List.length_cons, and_assoc, Nat.add_right_comm,
        ← Nat.add_assoc]

lemma charsAt_append : CharsAt m o (s ++ t) ↔ CharsAt m o s ∧ CharsAt m (o + s.length) t := by
  induction s generalizing o with
  | nil => simp [CharsAt]
  | cons c s ih =>
      simp only [List.cons_append, CharsAt, ih, List.length_cons, and_assoc, Nat.add_right_comm,
        ← Nat.add_assoc]

/-- **Characters stay** where nothing is written on them. -/
lemma CharsAt.congr (h : CharsAt m o s) (hm : ∀ i, o ≤ i → i < o + s.length → m' i = m i) :
    CharsAt m' o s := by
  induction s generalizing o with
  | nil => trivial
  | cons c s ih =>
      rw [List.length_cons] at hm
      refine ⟨by rw [hm o le_rfl (by omega), h.1], h.2.1, ih h.2.2 fun i hi hlt => ?_⟩
      exact hm i (by omega) (by omega)

lemma StringAt.congr (h : StringAt m o s) (hm : ∀ i, o ≤ i → i ≤ o + s.length → m' i = m i) :
    StringAt m' o s := by
  obtain ⟨hchars, hnul⟩ := stringAt_iff.mp h
  refine stringAt_iff.mpr ⟨hchars.congr fun i hi hlt => hm i hi hlt.le, ?_⟩
  rw [hm _ (by omega) le_rfl, hnul]

/-- A NUL behind some characters makes a string of them. -/
lemma CharsAt.close (h : CharsAt m o s) :
    StringAt (Function.update m (o + s.length) NUL) o s := by
  refine stringAt_iff.mpr ⟨h.congr fun i _ hlt => ?_, Function.update_self ..⟩
  exact Function.update_of_ne (by omega) ..

/-- A character more is written behind some. -/
lemma CharsAt.concat (h : CharsAt m o s) (hc : c ≠ NUL) :
    CharsAt (Function.update m (o + s.length) c) o (s ++ [c]) := by
  refine charsAt_append.mpr ⟨h.congr fun i _ hlt => ?_, Function.update_self .., hc, trivial⟩
  exact Function.update_of_ne (by omega) ..

/-- A string is determined by where it stands. -/
lemma StringAt.unique (h : StringAt m o s) (h' : StringAt m o t) : s = t := by
  induction s generalizing o t with
  | nil =>
      cases t with
      | nil => rfl
      | cons d t => exact absurd (h'.1.symm.trans h) h'.2.1
  | cons c s ih =>
      cases t with
      | nil => exact absurd (h.1.symm.trans h') h.2.1
      | cons d t => rw [← h.1, ← h'.1, ih h.2.2 h'.2.2]

lemma StringAt.ne_nul (h : StringAt m o s) : ∀ i < s.length, m (o + i) ≠ NUL := by
  induction s generalizing o with
  | nil => exact fun i hi => absurd hi (Nat.not_lt_zero i)
  | cons c s ih =>
      intro i hi
      cases i with
      | zero => exact h.1 ▸ h.2.1
      | succ i =>
          rw [List.length_cons] at hi
          rw [add_comm i, ← add_assoc]
          exact ih h.2.2 i (by omega)

/-- Some memory has a string that is free of NUL. -/
lemma stringAt_getD (h : NUL ∉ s) : StringAt (fun i => s.getD i NUL) 0 s := by
  suffices hgo : ∀ t u, s = t ++ u → StringAt (fun i => s.getD i NUL) t.length u from hgo [] s rfl
  intro t u
  induction u generalizing t with
  | nil =>
      rintro hs
      simp [StringAt, hs]
  | cons c u ih =>
      intro hs
      have hc : c ≠ NUL := fun he => h (by rw [hs, he]; simp)
      have hget : s.getD t.length NUL = c := by simp [hs]
      refine ⟨hget, hc, ?_⟩
      have hbehind := ih (t ++ [c]) (by rw [hs]; simp)
      rwa [List.length_append, List.length_singleton] at hbehind

/-- **What `strlen` gives.** -/
lemma strlen_eq (h : StringAt m o s) (hfuel : s.length < fuel) :
    strlen m fuel o = some s.length := by
  induction s generalizing o fuel with
  | nil =>
      obtain ⟨fuel, rfl⟩ : ∃ k, fuel = k + 1 := Nat.exists_eq_succ_of_ne_zero (by omega)
      exact if_pos h
  | cons c s ih =>
      obtain ⟨fuel, rfl⟩ : ∃ k, fuel = k + 1 := Nat.exists_eq_succ_of_ne_zero (by omega)
      rw [List.length_cons] at hfuel ⊢
      rw [strlen, if_neg (by rw [h.1]; exact h.2.1), ih h.2.2 (by omega), Option.map_some]

end Memory

end CString
