import Mathlib

/-!
# Runs of a labelled transition system

`Run step s as t` says that the system can go from `s` to `t` by taking the steps labelled `as`
one after another.  The one rule everything uses is `Run.invariant`: what holds at the start and
is kept by every step holds at the end of every run.
-/

variable {σ α : Type*}

/-- The system goes from the first state to the second by the listed steps. -/
inductive Run (step : σ → α → σ → Prop) : σ → List α → σ → Prop
  | nil (s : σ) : Run step s [] s
  | snoc {s t u : σ} {as : List α} {a : α} :
      Run step s as t → step t a u → Run step s (as ++ [a]) u

namespace Run

variable {step : σ → α → σ → Prop} {s t u : σ} {as : List α} {a : α}

/-- **The induction rule of runs.** -/
theorem invariant {P : σ → Prop} (hstep : ∀ s a t, P s → step s a t → P t)
    (hr : Run step s as t) (h0 : P s) : P t := by
  induction hr with
  | nil => exact h0
  | snoc _ hst ih => exact hstep _ _ _ ih hst

/-- An invariant that also speaks of the labels taken so far. -/
theorem history {P : List α → σ → Prop}
    (hstep : ∀ as s a t, P as s → step s a t → P (as ++ [a]) t)
    (hr : Run step s as t) (h0 : P [] s) : P as t := by
  induction hr with
  | nil => exact h0
  | snoc _ hst ih => exact hstep _ _ _ _ ih hst

/-- A run of a system is a run of any that can take the same steps. -/
lemma mono {step' : σ → α → σ → Prop} (hstep : ∀ s a t, step s a t → step' s a t)
    (hr : Run step s as t) : Run step' s as t := by
  induction hr with
  | nil => exact nil s
  | snoc _ hst ih => exact snoc ih (hstep _ _ _ hst)

/-- A step before a run. -/
lemma cons (hst : step s a t) (hr : Run step t as u) : Run step s (a :: as) u := by
  induction hr with
  | nil => exact snoc (nil s) hst
  | snoc _ hst' ih => exact snoc ih hst'

/-- A run after a run. -/
lemma append {bs : List α} (hr : Run step s as t) (hr' : Run step t bs u) :
    Run step s (as ++ bs) u := by
  induction hr' with
  | nil => rwa [List.append_nil]
  | snoc _ hst ih =>
      rw [← List.append_assoc]
      exact snoc ih hst

lemma eq_of_nil (hr : Run step s [] t) : t = s := by
  generalize hl : ([] : List α) = l at hr
  cases hr with
  | nil => rfl
  | snoc _ _ => simp at hl

/-- The last step of a run. -/
lemma snoc_inv (hr : Run step s (as ++ [a]) u) : ∃ t, Run step s as t ∧ step t a u := by
  generalize hl : as ++ [a] = l at hr
  cases hr with
  | nil => simp at hl
  | snoc hr hst =>
      obtain ⟨rfl, hab⟩ := List.append_inj' hl rfl
      obtain rfl := List.singleton_inj.mp hab
      exact ⟨_, hr, hst⟩

/-- A system whose steps have one result each has one end for each list of labels. -/
lemma unique (hdet : ∀ s a t t', step s a t → step s a t' → t = t') (hr : Run step s as t)
    (hr' : Run step s as u) : t = u := by
  induction hr generalizing u with
  | nil => exact (eq_of_nil hr').symm
  | snoc _ hst ih =>
      obtain ⟨v, hv, hst'⟩ := hr'.snoc_inv
      obtain rfl := ih hv
      exact hdet _ _ _ _ hst hst'

/-- The step that a run takes behind some of its labels. -/
lemma step_at {as' : List α} (hr : Run step s as' t) (hpre : as ++ [a] <+: as') :
    ∃ u v, Run step s as u ∧ step u a v := by
  induction hr with
  | nil => simp at hpre
  | snoc hr hst ih =>
      rcases List.prefix_concat_iff.mp hpre with heq | hpre
      · obtain ⟨rfl, hab⟩ := List.append_inj' heq rfl
        obtain rfl := List.singleton_inj.mp hab
        exact ⟨_, _, hr, hst⟩
      · exact ih hpre

/-- **A property that each step keeps just if it meets a condition** holds all along a run just if
all steps of the run meet it.  The condition and the property may use an invariant. -/
theorem always_iff {I P : σ → Prop} {C : σ → α → Prop}
    (hdet : ∀ s a t t', step s a t → step s a t' → t = t')
    (hI : ∀ s a t, I s → step s a t → I t)
    (hstep : ∀ s a t, I s → P s → step s a t → (P t ↔ C s a)) (h0 : I s) (hP : P s)
    (hr : Run step s as t) :
    (∀ pre u, pre <+: as → Run step s pre u → P u) ↔
      Run (fun s a t => C s a ∧ step s a t) s as t := by
  constructor
  · intro h
    induction hr with
    | nil => exact .nil s
    | @snoc t u as a hr hst ih =>
        have hpre : ∀ pre v, pre <+: as → Run step s pre v → P v :=
          fun pre v hp => h pre v (hp.trans (List.prefix_append _ _))
        have ht : P t := hpre as t List.prefix_rfl hr
        have hu : P u := h _ u List.prefix_rfl (.snoc hr hst)
        exact .snoc (ih hpre) ⟨(hstep _ _ _ (hr.invariant hI h0) ht hst).mp hu, hst⟩
  · intro hclean pre u hpre hu
    suffices hall : I u ∧ P u from hall.2
    induction hu with
    | nil => exact ⟨h0, hP⟩
    | @snoc v u pre a hv hst ih =>
        obtain ⟨hIv, hPv⟩ := ih ((List.prefix_append _ _).trans hpre)
        refine ⟨hI _ _ _ hIv hst, (hstep _ _ _ hIv hPv hst).mpr ?_⟩
        obtain ⟨w, -, hw, hC, -⟩ := hclean.step_at hpre
        obtain rfl := unique hdet (hw.mono fun _ _ _ h => h.2) hv
        exact hC

/-- The runs whose steps all meet a condition meet any that it implies, where the implication may
use an invariant. -/
lemma and_mono {I : σ → Prop} {Q C : σ → α → σ → Prop} (hI : ∀ s a t, I s → step s a t → I t)
    (hQC : ∀ s a t, I s → step s a t → Q s a t → C s a t) (h0 : I s)
    (hr : Run (fun s a t => step s a t ∧ Q s a t) s as t) :
    Run (fun s a t => step s a t ∧ C s a t) s as t := by
  induction hr with
  | nil => exact nil s
  | snoc hr hst ih =>
      have hIt := hr.invariant (fun v a w hv h => hI v a w hv h.1) h0
      exact snoc ih ⟨hst.1, hQC _ _ _ hIt hst.1 hst.2⟩

/-- **Two conditions that agree on every step** from a state with the invariant have the same runs. -/
theorem and_congr {I : σ → Prop} {Q C : σ → α → σ → Prop} (hI : ∀ s a t, I s → step s a t → I t)
    (hQC : ∀ s a t, I s → step s a t → (Q s a t ↔ C s a t)) (h0 : I s) :
    Run (fun s a t => step s a t ∧ Q s a t) s as t ↔
      Run (fun s a t => step s a t ∧ C s a t) s as t :=
  ⟨and_mono hI (fun v a w hv h => (hQC v a w hv h).mp) h0,
    and_mono hI (fun v a w hv h => (hQC v a w hv h).mpr) h0⟩

end Run

/-! ## Executing a system -/

/-- The inputs processed one after another, where each is processed by a function: the state
reached and the labels of the steps. -/
def execBy {β : Type*} (next : σ → β → Option (σ × α)) : σ → List β → Option (σ × List α)
  | s, [] => some (s, [])
  | s, b :: bs =>
      (next s b).bind fun p => (execBy next p.1 bs).map fun q => (q.1, p.2 :: q.2)

/-- **What is executed is a run**, when the function only takes steps of the system. -/
theorem Run.of_execBy {β : Type*} {step : σ → α → σ → Prop} {next : σ → β → Option (σ × α)}
    (hnext : ∀ s b p, next s b = some p → step s p.2 p.1) {s t : σ} {bs : List β} {as : List α}
    (h : execBy next s bs = some (t, as)) : Run step s as t := by
  induction bs generalizing s as with
  | nil =>
      cases h
      exact .nil _
  | cons b bs ih =>
      obtain ⟨p, hp, hrest⟩ := Option.bind_eq_some_iff.mp h
      obtain ⟨⟨u, bs'⟩, hq, heq⟩ := Option.map_eq_some_iff.mp hrest
      cases heq
      exact .cons (hnext s b p hp) (ih hq)
