import Mathlib

/-!
# Marks that are separated in a history

A history is a list of marks, the newest last.  `Separated P Q tr` says that between any two
marks of kind `P` there is one of kind `Q`, and `Guarded P R Q tr` that there is one between any `P`
and a later `R`; `Armed P Q tr` says that the newest mark of either kind is a `P`.  The rules
everything uses are those for one more mark, `armed_snoc`, `guarded_snoc` and `separated_snoc`: an
`R` is allowed exactly when the history is not armed.
-/

variable {α : Type*} {P Q R : α → Prop} {tr l : List α} {x : α}

/-- Between two marks of kind `P` there is one of kind `Q`. -/
def Separated (P Q : α → Prop) (tr : List α) : Prop :=
  ∀ pre x mid y post, tr = pre ++ x :: (mid ++ y :: post) → P x → P y → ∃ z ∈ mid, Q z

/-- Between a mark of kind `P` and a later one of kind `R` there is one of kind `Q`. -/
def Guarded (P R Q : α → Prop) (tr : List α) : Prop :=
  ∀ pre x mid y post, tr = pre ++ x :: (mid ++ y :: post) → P x → R y → ∃ z ∈ mid, Q z

/-- A mark of kind `P` came after which none of kind `Q` has come. -/
def Armed (P Q : α → Prop) (tr : List α) : Prop :=
  ∃ pre x mid, tr = pre ++ x :: mid ∧ P x ∧ ∀ z ∈ mid, ¬Q z

lemma not_armed_nil : ¬Armed P Q [] := by
  rintro ⟨pre, x, mid, h, -⟩
  simp at h

lemma guarded_nil : Guarded P R Q [] := by
  intro pre x mid y post h
  simp at h

/-- **One more mark**: it arms the history when it is a `P`, and leaves it armed when it is not a
`Q`. -/
lemma armed_snoc : Armed P Q (tr ++ [x]) ↔ P x ∨ Armed P Q tr ∧ ¬Q x := by
  constructor
  · rintro ⟨pre, y, mid, h, hy, hmid⟩
    rcases List.eq_nil_or_concat mid with rfl | ⟨mid', z, rfl⟩
    · obtain ⟨-, hxy⟩ := List.append_inj' h rfl
      cases hxy
      exact Or.inl hy
    · have h' : tr ++ [x] = (pre ++ y :: mid') ++ [z] := by simpa using h
      obtain ⟨rfl, hxz⟩ := List.append_inj' h' rfl
      cases hxz
      exact Or.inr ⟨⟨pre, y, mid', rfl, hy, fun w hw => hmid w (by simp [hw])⟩,
        hmid x (by simp)⟩
  · rintro (hx | ⟨⟨pre, y, mid, rfl, hy, hmid⟩, hx⟩)
    · exact ⟨tr, x, [], rfl, hx, by simp⟩
    · refine ⟨pre, y, mid ++ [x], by simp, hy, ?_⟩
      intro z hz
      rcases List.mem_append.mp hz with hz | hz
      · exact hmid z hz
      · cases List.mem_singleton.mp hz
        exact hx

/-- **One more mark** keeps a history guarded exactly when it is not an `R` on top of an armed
one. -/
lemma guarded_snoc :
    Guarded P R Q (tr ++ [x]) ↔ Guarded P R Q tr ∧ (R x → ¬Armed P Q tr) := by
  constructor
  · intro h
    constructor
    · intro pre y mid z post htr
      exact h pre y mid z (post ++ [x]) (by simp [htr])
    · rintro hx ⟨pre, y, mid, rfl, hy, hmid⟩
      obtain ⟨z, hz, hQ⟩ := h pre y mid x [] (by simp) hy hx
      exact hmid z hz hQ
  · rintro ⟨hsep, harm⟩ pre y mid z post h hy hz
    rcases List.eq_nil_or_concat post with rfl | ⟨post', w, rfl⟩
    · have h' : tr ++ [x] = (pre ++ y :: mid) ++ [z] := by simpa using h
      obtain ⟨rfl, hxz⟩ := List.append_inj' h' rfl
      cases hxz
      by_contra hno
      push Not at hno
      exact harm hz ⟨pre, y, mid, rfl, hy, hno⟩
    · have h' : tr ++ [x] = (pre ++ y :: (mid ++ z :: post')) ++ [w] := by simpa using h
      obtain ⟨rfl, -⟩ := List.append_inj' h' rfl
      exact hsep pre y mid z post' rfl hy hz

lemma separated_snoc :
    Separated P Q (tr ++ [x]) ↔ Separated P Q tr ∧ (P x → ¬Armed P Q tr) :=
  guarded_snoc

/-- Marks of neither kind change nothing. -/
lemma armed_append (hl : ∀ z ∈ l, ¬P z ∧ ¬Q z) : Armed P Q (tr ++ l) ↔ Armed P Q tr := by
  induction l using List.reverseRecOn with
  | nil => simp
  | append_singleton l z ih =>
      have hz := hl z (by simp)
      rw [← List.append_assoc, armed_snoc, ih fun w hw => hl w (by simp [hw])]
      simp [hz]

/-- Marks that are not of kind `R` keep a history guarded. -/
lemma guarded_append (hl : ∀ z ∈ l, ¬R z) : Guarded P R Q (tr ++ l) ↔ Guarded P R Q tr := by
  induction l using List.reverseRecOn with
  | nil => simp
  | append_singleton l z ih =>
      have hz := hl z (by simp)
      rw [← List.append_assoc, guarded_snoc, ih fun w hw => hl w (by simp [hw])]
      simp [hz]

lemma separated_append (hl : ∀ z ∈ l, ¬P z) : Separated P Q (tr ++ l) ↔ Separated P Q tr :=
  guarded_append hl

/-- Marks that hold a `Q` and no `P` disarm a history. -/
lemma not_armed_append (hP : ∀ z ∈ l, ¬P z) (hQ : ∃ z ∈ l, Q z) : ¬Armed P Q (tr ++ l) := by
  induction l using List.reverseRecOn with
  | nil => simp at hQ
  | append_singleton l z ih =>
      rw [← List.append_assoc, armed_snoc]
      rintro (hz | ⟨harm, hz⟩)
      · exact hP z (by simp) hz
      · obtain ⟨w, hw, hQw⟩ := hQ
        rcases List.mem_append.mp hw with hw | hw
        · exact ih (fun v hv => hP v (by simp [hv])) ⟨w, hw, hQw⟩ harm
        · cases List.mem_singleton.mp hw
          exact hz hQw

/-- Marks that are not of kind `Q` leave a history armed. -/
lemma armed_append_of_armed (hl : ∀ z ∈ l, ¬Q z) (harm : Armed P Q tr) : Armed P Q (tr ++ l) := by
  induction l using List.reverseRecOn with
  | nil => simpa using harm
  | append_singleton l z ih =>
      rw [← List.append_assoc, armed_snoc]
      exact Or.inr ⟨ih fun w hw => hl w (by simp [hw]), hl z (by simp)⟩
