import OcnDevice.Core.CString

/-!
# Addresses and masks of the internet protocols

What `inet_pton` and `atoi` do for a text is a parameter (`Libc`), with what the manuals promise:
which characters an address is made of, and that `atoi` gives the number if it is an `int`.

A word of a mask is read from its highest bit (`IsLeading`): this is the order of the network.
-/

namespace Inet

/-! ## Masks -/

/-- The bits of a word are ones up to a place that is counted from the highest bit, then zeros. -/
def IsLeading (w : BitVec 32) (n : ℤ) : Prop := ∀ i < 32, w.getMsbD i = decide ((i : ℤ) < n)

/-! ## What the C library does -/

/-- `inet_pton` for both families, with the bytes in the order of the network, and `atoi`. -/
structure Libc where
  inetPton4 : List Char → Option (Fin 4 → BitVec 8)
  inetPton6 : List Char → Option (Fin 16 → BitVec 8)
  atoi : List Char → ℤ
  /-- An address of version 4 is made of digits and dots. -/
  pton4_chars : ∀ {s b}, inetPton4 s = some b → s ≠ [] ∧ ∀ c ∈ s, c.isDigit ∨ c = '.'
  /-- An address of version 6 is made of hexadecimal digits, colons and dots, and has a colon. -/
  pton6_chars : ∀ {s b}, inetPton6 s = some b →
    ':' ∈ s ∧ ∀ c ∈ s, (CString.digitVal 16 c).isSome ∨ c = ':' ∨ c = '.'
  /-- `atoi` is promised for numbers of type `int` only. -/
  atoi_eq : ∀ {s}, -2 ^ 31 ≤ CString.strtol 10 s → CString.strtol 10 s < 2 ^ 31 →
    atoi s = CString.strtol 10 s

namespace Libc

variable {libc : Libc} {s : List Char} {c : Char}

lemma not_mem_of_pton4 {b : Fin 4 → BitVec 8} (h : libc.inetPton4 s = some b)
    (hdigit : c.isDigit = false) (hdot : c ≠ '.') : c ∉ s := by
  intro hc
  rcases (libc.pton4_chars h).2 c hc with hd | hd
  · rw [hd] at hdigit
    cases hdigit
  · exact hdot hd

lemma not_mem_of_pton6 {b : Fin 16 → BitVec 8} (h : libc.inetPton6 s = some b)
    (hdigit : (CString.digitVal 16 c).isSome = false) (hcolon : c ≠ ':') (hdot : c ≠ '.') :
    c ∉ s := by
  intro hc
  rcases (libc.pton6_chars h).2 c hc with hd | hd | hd
  · rw [hd] at hdigit
    cases hdigit
  · exact hcolon hd
  · exact hdot hd

end Libc

/-! ## Decimal numbers -/

/-- The number that a text of digits stands for. -/
def decimal (s : List Char) : ℕ := s.foldl (fun n c => n * 10 + (c.toNat - '0'.toNat)) 0

/-- A text that is a number and nothing else. -/
def IsDecimal (s : List Char) : Prop := s ≠ [] ∧ ∀ c ∈ s, c.isDigit = true

lemma digitVal_of_isDigit {c : Char} (h : c.isDigit = true) :
    CString.digitVal 10 c = some (c.toNat - '0'.toNat) := by
  rw [Char.isDigit, Bool.and_eq_true, decide_eq_true_iff, decide_eq_true_iff] at h
  have hle : '0' ≤ c ∧ c ≤ '9' := h
  have hlt : c.toNat - '0'.toNat < 10 := by
    have h9 : c.toNat ≤ 57 := h.2
    have h0 : '0'.toNat = 48 := rfl
    omega
  rw [CString.digitVal, if_pos hle, if_pos hlt]

/-- The fold of `strtol` over digits. -/
lemma foldl_digits {s : List Char} (h : ∀ c ∈ s, c.isDigit = true) (n : ℕ) :
    ((s.map (CString.digitVal 10)).takeWhile Option.isSome).foldl
      (fun (n : ℤ) d => n * (10 : ℕ) + (d.getD 0 : ℕ)) n =
      (s.foldl (fun n c => n * 10 + (c.toNat - '0'.toNat)) n : ℕ) := by
  induction s generalizing n with
  | nil => rfl
  | cons c s ih =>
      have hc := digitVal_of_isDigit (h c (by simp))
      have hrest := ih (fun d hd => h d (List.mem_cons_of_mem _ hd))
      simp only [List.map_cons, hc, List.takeWhile_cons_of_pos, Option.isSome_some,
        List.foldl_cons, Option.getD_some]
      rw [← hrest]
      push_cast
      rfl

/-- **`strtol` gives the number of a decimal text**, as far as it is a `long`. -/
lemma strtol_decimal {s : List Char} (h : IsDecimal s) :
    CString.strtol 10 s = min (2 ^ 63 - 1) (decimal s : ℤ) := by
  obtain ⟨hne, hall⟩ := h
  obtain ⟨c, rest, rfl⟩ := List.exists_cons_of_ne_nil hne
  have hc : c.isDigit = true := hall c (by simp)
  have hminus : c ≠ '-' := by
    rintro rfl
    cases hc
  have hplus : c ≠ '+' := by
    rintro rfl
    cases hc
  have hspace : CString.isspace c = false := by
    rw [Bool.eq_false_iff]
    intro hsp
    rw [CString.isspace, decide_eq_true_iff] at hsp
    rcases hsp with rfl | rfl | rfl | hv | hv | rfl
    · cases hc
    · cases hc
    · cases hc
    · rw [show c = Char.ofNat 11 by rw [← hv, Char.ofNat_toNat]] at hc
      cases hc
    · rw [show c = Char.ofNat 12 by rw [← hv, Char.ofNat_toNat]] at hc
      cases hc
    · cases hc
  have hfold := foldl_digits hall 0
  have hpos : (-2 ^ 63 : ℤ) ≤ min (2 ^ 63 - 1) (decimal (c :: rest) : ℤ) := by omega
  rw [Nat.cast_zero] at hfold
  simp only [CString.strtol, List.dropWhile_cons_of_neg (Bool.eq_false_iff.mp hspace)]
  split
  · rename_i heq
    exact absurd (List.cons.inj heq).1 hminus
  · rename_i heq
    exact absurd (List.cons.inj heq).1 hplus
  · -- no sign; and in base ten nothing is skipped
    simp only [Nat.reduceEqDiff, false_and, if_false, Bool.false_eq_true]
    split
    · rw [hfold]
      exact max_eq_right hpos
    · rw [hfold]
      exact max_eq_right hpos

end Inet
