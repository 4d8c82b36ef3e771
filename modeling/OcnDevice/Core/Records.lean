import Mathlib

/-!
# Records behind one another

A buffer holds records of different lengths, one behind the other: each begins with a header, in
which a field tells its length, and the next one begins at the next multiple of four.  A `Framing`
is how long the header is and how its field is read.

`Framing.walk` goes from record to record as far as a length allows that it counts down; the count
is unsigned, so that it comes to no end where the last record is cut off.  Where the records tile a
part of the buffer (`Tiles`) it visits them and goes on behind them, with what is left of the length
(`walk_tiles`); and where all of the length is used up, or no record begins there, it stops.

`Framing.reads` is what is read on the way, where the length is a word that wraps.  All of it is
good exactly if the records are laid out so that it is (`reads_iff`): at each place the length that
is left is the first one less the way to there (`left`), whether it has wrapped or not.
-/

/-- The next multiple of four. -/
def alignFour (n : ℕ) : ℕ := (n + 3) / 4 * 4

lemma le_alignFour (n : ℕ) : n ≤ alignFour n := by
  rw [alignFour]
  omega

/-- How records are framed: the size of the header, and the length that the header at a place of the
buffer tells. -/
structure Framing where
  header : ℕ
  length : (ℕ → UInt8) → ℕ → ℕ
  header_pos : 0 < header

namespace Framing

variable (F : Framing)

/-- A record begins here and fits the length that is left. -/
def Ok (m : ℕ → UInt8) (o len : ℕ) : Prop :=
  F.header ≤ len ∧ F.header ≤ F.length m o ∧ F.length m o ≤ len

instance (m : ℕ → UInt8) (o len : ℕ) : Decidable (F.Ok m o len) :=
  inferInstanceAs (Decidable (_ ∧ _ ∧ _))

/-- Where the record behind this one begins. -/
def next (m : ℕ → UInt8) (o : ℕ) : ℕ := o + alignFour (F.length m o)

/-- The places of the records that are visited from a place on, with a length to go; there is no end
to them where the length goes below zero. -/
def walk (m : ℕ → UInt8) : ℕ → ℕ → ℕ → Option (List ℕ)
  | 0, _, _ => none
  | fuel + 1, o, len =>
      if F.Ok m o len then
        if alignFour (F.length m o) ≤ len then
          (walk m fuel (F.next m o) (len - alignFour (F.length m o))).map (o :: ·)
        else none
      else some []

/-- The records that begin at the given places tile the buffer between two places. -/
inductive Tiles (m : ℕ → UInt8) : ℕ → ℕ → List ℕ → Prop
  | nil (o : ℕ) : Tiles m o o []
  | cons {o e : ℕ} {os : List ℕ} : F.header ≤ F.length m o → F.next m o ≤ e →
      Tiles m (F.next m o) e os → Tiles m o e (o :: os)

variable {F} {m m' : ℕ → UInt8} {o e f extra fuel : ℕ} {os ps : List ℕ}

lemma Tiles.le (h : F.Tiles m o e os) : o ≤ e := by
  induction h with
  | nil => exact le_rfl
  | cons _ hle _ _ => exact (Nat.le_add_right _ _).trans hle

/-- Tiles and more tiles. -/
lemma Tiles.append (h : F.Tiles m o e os) (h' : F.Tiles m e f ps) : F.Tiles m o f (os ++ ps) := by
  induction h with
  | nil => exact h'
  | cons hlen hle _ ih => exact .cons hlen (hle.trans h'.le) (ih h')

/-- Tiles of a buffer are tiles of one whose headers tell the same. -/
lemma Tiles.congr (h : F.Tiles m o e os)
    (hsame : ∀ p, o ≤ p → p + F.header ≤ e → F.length m' p = F.length m p) :
    F.Tiles m' o e os := by
  induction h with
  | nil => exact .nil _
  | @cons o e os hlen hle _ ih =>
      have hfit := le_alignFour (F.length m o)
      have heq : F.length m' o = F.length m o := by
        refine hsame o le_rfl ?_
        rw [next] at hle
        omega
      have hnext : F.next m' o = F.next m o := by rw [next, next, heq]
      refine .cons (heq ▸ hlen) (hnext ▸ hle) ?_
      rw [hnext]
      refine ih fun p hp => hsame p ?_
      rw [next] at hp
      omega

/-- **The walk visits the tiles**, and goes on behind them with what is left. -/
theorem walk_tiles (h : F.Tiles m o e os) (hrest : ¬ F.Ok m e extra)
    (hfuel : e - o + extra < fuel) : F.walk m fuel o (e - o + extra) = some os := by
  induction h generalizing fuel with
  | nil o =>
      obtain ⟨fuel, rfl⟩ : ∃ k, fuel = k + 1 := Nat.exists_eq_succ_of_ne_zero (by omega)
      rw [walk, if_neg (by rwa [Nat.sub_self, zero_add])]
  | @cons o e os hlen hle htiles ih =>
      have hpos := F.header_pos
      have hfit := le_alignFour (F.length m o)
      have hnext : F.next m o = o + alignFour (F.length m o) := rfl
      obtain ⟨fuel, rfl⟩ : ∃ k, fuel = k + 1 := Nat.exists_eq_succ_of_ne_zero (by omega)
      have hok : F.Ok m o (e - o + extra) := ⟨by omega, hlen, by omega⟩
      rw [walk, if_pos hok, if_pos (by omega),
        show e - o + extra - alignFour (F.length m o) = e - F.next m o + extra by omega,
        ih hrest (by omega)]
      rfl

/-! ## What is read -/

section Reads

variable (F) {ρ : Type} (word : ℕ) (field : ℕ → ρ)
  (visit : ℕ → ℕ → ℕ → Option (List ρ × Bool)) (good : ρ → Prop)

/-- A difference of words. -/
def wrapSub (a b : ℕ) : ℕ := (((a : ℤ) - b) % word).toNat

/-- What is read on a walk: the field of each header for which there is room, and what is read of
the record behind it, which may also end the walk.  There may be no end to it. -/
def reads (m : ℕ → UInt8) : ℕ → ℕ → ℕ → Option (List ρ)
  | 0, _, _ => none
  | fuel + 1, o, len =>
      if len < F.header then some []
      else if F.Ok m o len then
        (visit fuel o len).bind fun v =>
          if v.2 then some (field o :: v.1)
          else (reads m fuel (o + alignFour (F.length m o) % word)
            (wrapSub word len (alignFour (F.length m o)))).map (field o :: v.1 ++ ·)
      else some [field o]

/-- The length that is left at a place. -/
def left (o len x : ℕ) : ℕ := wrapSub word len (x - o)

/-- What is read of a record is good, and whether it ends the walk. -/
def Visits (x len : ℕ) (stop : Bool) : Prop :=
  ∃ fuel rs, visit fuel x len = some (rs, stop) ∧ ∀ r ∈ rs, good r

/-- **The layout** on which all is good: the fields of the records, of which each fits the length
that is left, and what is read of them; and there is no room behind them, or no record, or one that
ends the walk. -/
def Layout (m : ℕ → UInt8) (o len : ℕ) : Prop :=
  ∃ os e, F.Tiles m o e os ∧
    (∀ x ∈ os, F.Ok m x (left word o len x) ∧ good (field x) ∧
      Visits visit good x (left word o len x) false) ∧
    (left word o len e < F.header ∨ good (field e) ∧
      (¬ F.Ok m e (left word o len e) ∨ Visits visit good e (left word o len e) true))

variable {F word field visit good} {a b c o len x : ℕ} {rs : List ρ} {m : ℕ → UInt8}

lemma wrapSub_lt (hword : 0 < word) (a b : ℕ) : wrapSub word a b < word := by
  have hpos : (0 : ℤ) < word := by exact_mod_cast hword
  have hlt := Int.emod_lt_of_pos ((a : ℤ) - b) hpos
  have hnonneg := Int.emod_nonneg ((a : ℤ) - b) hpos.ne'
  rw [wrapSub]
  omega

lemma wrapSub_of_le (h : b ≤ a) (ha : a < word) : wrapSub word a b = a - b := by
  have hword : (a : ℤ) < word := by exact_mod_cast ha
  rw [wrapSub, Int.emod_eq_of_lt (by omega) (by omega)]
  omega

/-- Behind zero the words begin from above. -/
lemma wrapSub_of_lt (h : a < b) (hb : b ≤ a + word) : wrapSub word a b = a + word - b := by
  have heq : ((a : ℤ) - b) % word = ((a : ℤ) + word - b) % word := by
    rw [show (a : ℤ) + word - b = a - b + word by ring, Int.add_emod_right]
  rw [wrapSub, heq, Int.emod_eq_of_lt (by omega) (by omega)]
  omega

lemma wrapSub_wrapSub (hword : 0 < word) :
    wrapSub word (wrapSub word a b) c = wrapSub word a (b + c) := by
  have hpos : (0 : ℤ) < word := by exact_mod_cast hword
  rw [wrapSub, wrapSub, wrapSub, Int.toNat_of_nonneg (Int.emod_nonneg _ hpos.ne'),
    Int.emod_sub_emod]
  congr 2
  push_cast
  ring

lemma left_self (hlen : len < word) : left word o len o = len := by
  rw [left, Nat.sub_self, wrapSub_of_le (Nat.zero_le _) hlen, Nat.sub_zero]

/-- What is left beyond a record. -/
lemma left_next (hword : 0 < word) (hx : F.next m o ≤ x) :
    left word (F.next m o) (wrapSub word len (alignFour (F.length m o))) x = left word o len x := by
  rw [left, left, wrapSub_wrapSub hword]
  congr 1
  rw [next] at hx ⊢
  omega

lemma Tiles.mem_ge {e : ℕ} {os : List ℕ} (h : F.Tiles m o e os) (hx : x ∈ os) : o ≤ x := by
  induction h with
  | nil => exact absurd hx List.not_mem_nil
  | cons _ _ _ ih =>
      rcases List.mem_cons.mp hx with rfl | hx
      · exact le_rfl
      · exact (Nat.le_add_right _ _).trans (ih hx)

lemma Tiles.header_le {e : ℕ} {os : List ℕ} (h : F.Tiles m o e os) (hx : x ∈ os) :
    F.header ≤ F.length m x := by
  induction h with
  | nil => exact absurd hx List.not_mem_nil
  | cons hlen _ _ ih =>
      rcases List.mem_cons.mp hx with rfl | hx
      · exact hlen
      · exact ih hx

lemma Tiles.next_le {e : ℕ} {os : List ℕ} (h : F.Tiles m o e os) (hx : x ∈ os) :
    F.next m x ≤ e := by
  induction h with
  | nil => exact absurd hx List.not_mem_nil
  | cons _ hle _ ih =>
      rcases List.mem_cons.mp hx with rfl | hx
      · exact hle
      · exact ih hx

/-- The last record reaches up to the end. -/
lemma Tiles.end_le {e n : ℕ} {os : List ℕ} (h : F.Tiles m o e os) (ho : o ≤ n)
    (hos : ∀ x ∈ os, x + F.length m x ≤ n) : e ≤ n + 3 := by
  induction h with
  | nil => omega
  | @cons o e os _ _ htiles ih =>
      obtain ⟨hfit, hos⟩ := List.forall_mem_cons.mp hos
      cases htiles with
      | nil =>
          rw [next, alignFour]
          omega
      | cons hlen hle htiles =>
          have hnext := (List.forall_mem_cons.mp hos).1
          exact ih (by omega) hos

/-- More fuel does not change what is read. -/
def Steady (visit : ℕ → ℕ → ℕ → Option (List ρ × Bool)) : Prop :=
  ∀ fuel fuel' x len v, fuel ≤ fuel' → visit fuel x len = some v → visit fuel' x len = some v

lemma reads_mono (hvisit : Steady visit) {fuel fuel' : ℕ} (hle : fuel ≤ fuel')
    (h : F.reads word field visit m fuel o len = some rs) :
    F.reads word field visit m fuel' o len = some rs := by
  induction fuel generalizing fuel' o len rs with
  | zero => cases h
  | succ fuel ih =>
      obtain ⟨fuel', rfl⟩ : ∃ k, fuel' = k + 1 := Nat.exists_eq_succ_of_ne_zero (by omega)
      rw [reads] at h ⊢
      split_ifs at h ⊢ with hroom hok
      · exact h
      · obtain ⟨v, hv, h⟩ := Option.bind_eq_some_iff.mp h
        rw [hvisit fuel fuel' o len v (by omega) hv, Option.bind_some]
        split_ifs at h ⊢
        · exact h
        · obtain ⟨rest, hrest, rfl⟩ := Option.map_eq_some_iff.mp h
          rw [ih (by omega) hrest, Option.map_some]
      · exact h

/-- What is read is laid out well if all of it is good. -/
lemma layout_of_reads (hword : 0 < word) (hlen : len < word) {fuel : ℕ}
    (hshort : ∀ x, o ≤ x → good (field x) → F.length m x ≤ left word o len x →
      alignFour (F.length m x) < word)
    (h : F.reads word field visit m fuel o len = some rs) (hgood : ∀ r ∈ rs, good r) :
    F.Layout word field visit good m o len := by
  induction fuel generalizing o len rs with
  | zero => cases h
  | succ fuel ih =>
      have hself : left word o len o = len := left_self hlen
      rw [reads] at h
      split_ifs at h with hroom hok
      · exact ⟨[], o, .nil o, by simp, .inl (by rwa [hself])⟩
      · obtain ⟨⟨vs, stop⟩, hv, h⟩ := Option.bind_eq_some_iff.mp h
        cases stop with
        | true =>
            cases h
            obtain ⟨hfield, hvs⟩ := List.forall_mem_cons.mp hgood
            exact ⟨[], o, .nil o, by simp, .inr ⟨hfield, .inr ⟨fuel, vs, hself.symm ▸ hv, hvs⟩⟩⟩
        | false =>
            obtain ⟨rest, hrest, rfl⟩ := Option.map_eq_some_iff.mp h
            obtain ⟨hfield, hboth⟩ := List.forall_mem_cons.mp hgood
            have hvs : ∀ r ∈ vs, good r := fun r hr => hboth r (List.mem_append_left _ hr)
            have hrests : ∀ r ∈ rest, good r := fun r hr => hboth r (List.mem_append_right _ hr)
            have halign := hshort o le_rfl hfield (hself.symm ▸ hok.2.2)
            have hrun : F.reads word field visit m fuel (F.next m o)
                (wrapSub word len (alignFour (F.length m o))) = some rest := by
              rwa [Nat.mod_eq_of_lt halign] at hrest
            have hnext : ∀ x, F.next m o ≤ x → left word (F.next m o)
                (wrapSub word len (alignFour (F.length m o))) x = left word o len x :=
              fun x hx => left_next hword hx
            obtain ⟨os, e, htiles, hos, hend⟩ := ih (wrapSub_lt hword _ _)
              (fun x hx hfx => by
                rw [hnext x hx]
                exact hshort x ((Nat.le_add_right _ _).trans hx) hfx) hrun hrests
            refine ⟨o :: os, e, .cons hok.2.1 htiles.le htiles,
              List.forall_mem_cons.mpr ⟨?_, fun x hx => ?_⟩, ?_⟩
            · rw [hself]
              exact ⟨hok, hfield, fuel, vs, hv, hvs⟩
            · rw [← hnext x (htiles.mem_ge hx)]
              exact hos x hx
            · rw [← hnext e htiles.le]
              exact hend
      · cases h
        exact ⟨[], o, .nil o, by simp, .inr ⟨hgood _ (List.mem_singleton.mpr rfl),
          .inl (hself.symm ▸ hok)⟩⟩

/-- All that is read is good if it is laid out so. -/
lemma reads_of_layout (hword : 0 < word) (hlen : len < word) (hvisit : Steady visit)
    (hshort : ∀ x, o ≤ x → good (field x) → F.length m x ≤ left word o len x →
      alignFour (F.length m x) < word)
    (h : F.Layout word field visit good m o len) :
    ∃ fuel rs, F.reads word field visit m fuel o len = some rs ∧ ∀ r ∈ rs, good r := by
  obtain ⟨os, e, htiles, hos, hend⟩ := h
  induction htiles generalizing len with
  | nil o =>
      rw [left_self hlen] at hend
      by_cases hroom : len < F.header
      · exact ⟨1, [], by rw [reads, if_pos hroom], by simp⟩
      obtain ⟨hfield, hend⟩ := hend.resolve_left hroom
      have hone : ∀ r ∈ [field o], good r := List.forall_mem_singleton.mpr hfield
      by_cases hok : F.Ok m o len
      · obtain ⟨fuel, vs, hv, hvs⟩ := hend.resolve_left fun h => h hok
        exact ⟨fuel + 1, field o :: vs, by rw [reads, if_neg hroom, if_pos hok, hv]; rfl,
          List.forall_mem_cons.mpr ⟨hfield, hvs⟩⟩
      · exact ⟨1, [field o], by rw [reads, if_neg hroom, if_neg hok], hone⟩
  | @cons o e os hheader hle htiles ih =>
      obtain ⟨⟨hok, hfield, fuel, vs, hv, hvs⟩, hos⟩ := List.forall_mem_cons.mp hos
      have halign := hshort o le_rfl hfield hok.2.2
      rw [left_self hlen] at hok hv
      have hnext : ∀ x, F.next m o ≤ x → left word (F.next m o)
          (wrapSub word len (alignFour (F.length m o))) x = left word o len x :=
        fun x hx => left_next hword hx
      obtain ⟨fuel', rest, hrest, hrests⟩ := ih (wrapSub_lt hword _ _)
        (fun x hx hfx => by
          rw [hnext x hx]
          exact hshort x ((Nat.le_add_right _ _).trans hx) hfx)
        (fun x hx => by
          rw [hnext x (htiles.mem_ge hx)]
          exact hos x hx)
        (by
          rw [hnext e htiles.le]
          exact hend)
      have hpos := F.header_pos
      have hroom : ¬ len < F.header := by
        have hhead := hok.1
        omega
      refine ⟨max fuel fuel' + 1, field o :: (vs ++ rest), ?_,
        List.forall_mem_cons.mpr ⟨hfield, ?_⟩⟩
      · rw [reads, if_neg hroom, if_pos hok, hvisit _ _ _ _ _ (le_max_left _ _) hv,
          Option.bind_some, if_neg Bool.false_ne_true, Nat.mod_eq_of_lt halign]
        have hrest' := reads_mono hvisit (le_max_right fuel fuel') hrest
        rw [next] at hrest'
        rw [hrest']
        rfl
      · exact fun r hr => (List.mem_append.mp hr).elim (hvs r) (hrests r)

/-- **All that is read is good** exactly if the records are laid out so that it is. -/
theorem reads_iff (hword : 0 < word) (hlen : len < word) (hvisit : Steady visit)
    (hshort : ∀ x, o ≤ x → good (field x) → F.length m x ≤ left word o len x →
      alignFour (F.length m x) < word) :
    (∃ fuel rs, F.reads word field visit m fuel o len = some rs ∧ ∀ r ∈ rs, good r) ↔
      F.Layout word field visit good m o len :=
  ⟨fun ⟨_, _, h, hgood⟩ => layout_of_reads hword hlen hshort h hgood,
    reads_of_layout hword hlen hvisit hshort⟩

end Reads

end Framing
