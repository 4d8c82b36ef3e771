import OcnDevice.Core.Run

/-!
# A thread among others

A `Thread σ α` is a program over a shared state `σ`: it is done, with a result, it has halted for
good, or it takes an atomic step, of which what comes next may depend on the state it was taken in.
Between any two of its steps others may change the state (`Thread.Step`).

`Thread.wp` is the weakest condition on the state under which all goes well, whatever the others do
at each moment: `I` holds in every state, and the result satisfies the postcondition.  `wp_run` is
its meaning, over runs; `wp_bind` and `wp_step` are the rules to establish it, the latter with an
assertion that is stable under what the others do.  A `Triple` is the same from an assertion to an
assertion, for programs that are put together from parts with specifications of their own.

A program over a part of the state is one over the whole (`Thread.zoom`); and a program that keeps
more than another, but does the same on the common part, `Hides` it: each of its runs is one of the
other (`Hides.run`).
-/

/-- A program over a shared state, by atomic steps. -/
inductive Thread (σ α : Type)
  | done (a : α)
  | halt
  | step (upd : σ → σ) (next : σ → Thread σ α)

namespace Thread

variable {σ α β ε : Type}

/-- One program after the other. -/
def bind : Thread σ α → (α → Thread σ β) → Thread σ β
  | done a, f => f a
  | halt, _ => halt
  | step upd next, f => step upd fun s => (next s).bind f

instance : Monad (Thread σ) where
  pure := done
  bind := bind

/-- The state is changed. -/
def modify (f : σ → σ) : Thread σ Unit := step f fun _ => done ()

/-- Something is read from the state. -/
def read (g : σ → β) : Thread σ β := step id fun s => done (g s)

/-- A critical section: something is read from the state while it is changed. -/
def atomic (f : σ → β × σ) : Thread σ β := step (fun s => (f s).2) fun s => done (f s).1

section Bind

variable {k : β → Thread σ α}

@[simp] lemma pure_bind {b : β} : (pure b : Thread σ β) >>= k = k b := rfl

@[simp] lemma halt_bind : (halt : Thread σ β) >>= k = halt := rfl

@[simp] lemma step_bind {upd : σ → σ} {next : σ → Thread σ β} :
    step upd next >>= k = step upd fun s => next s >>= k := rfl

@[simp] lemma modify_bind {f : σ → σ} {k : Unit → Thread σ α} :
    modify f >>= k = step f fun _ => k () := rfl

@[simp] lemma read_bind {g : σ → β} : read g >>= k = step id fun s => k (g s) := rfl

@[simp] lemma atomic_bind {f : σ → β × σ} :
    atomic f >>= k = step (fun s => (f s).2) fun s => k (f s).1 := rfl

end Bind

/-! ## Interleaving -/

/-- The thread takes its next step, or another one changes the state. -/
inductive Step (others : σ → ε → σ → Prop) :
    σ × Thread σ α → Option ε → σ × Thread σ α → Prop
  | own (s : σ) (upd : σ → σ) (next : σ → Thread σ α) :
      Step others (s, step upd next) none (upd s, next s)
  | other {s s' : σ} {p : Thread σ α} {e : ε} : others s e s' →
      Step others (s, p) (some e) (s', p)

/-- A step on which a condition holds, of the states before and after. -/
def GuardedStep (others : σ → ε → σ → Prop) (cond : σ → Option ε → σ → Prop)
    (c : σ × Thread σ α) (a : Option ε) (c' : σ × Thread σ α) : Prop :=
  Step others c a c' ∧ cond c.1 a c'.1

/-! ## The weakest precondition -/

section Wp

variable (others : σ → σ → Prop) (own : σ → σ → Prop) (I : σ → Prop)

/-- All goes well: `I` holds in every state, and `Q` of the result, as long as the others only do
what `others` allows and the thread's own steps satisfy `own`. -/
def wp : Thread σ α → (α → σ → Prop) → σ → Prop
  | done a, Q, s => ∀ t, Relation.ReflTransGen others s t → I t ∧ Q a t
  | halt, _, s => ∀ t, Relation.ReflTransGen others s t → I t
  | step upd next, Q, s => ∀ t, Relation.ReflTransGen others s t →
      I t ∧ (own t (upd t) → (next t).wp Q (upd t))

/-- An assertion that the others keep. -/
def Stable (P : σ → Prop) : Prop := ∀ s t, P s → others s t → P t

variable {others own I} {p : Thread σ α} {Q R : α → σ → Prop} {P : σ → Prop} {s t : σ}

lemma Stable.steps (h : Stable others P) (hs : P s) (ht : Relation.ReflTransGen others s t) :
    P t := by
  induction ht with
  | refl => exact hs
  | tail _ hst ih => exact h _ _ ih hst

/-- What the others do is covered. -/
lemma wp_others (h : p.wp others own I Q s) (ht : Relation.ReflTransGen others s t) :
    p.wp others own I Q t := by
  cases p with
  | done a => exact fun u hu => h u (ht.trans hu)
  | halt => exact fun u hu => h u (ht.trans hu)
  | step upd next => exact fun u hu => h u (ht.trans hu)

lemma wp_inv (h : p.wp others own I Q s) : I s := by
  cases p with
  | done a => exact (h s .refl).1
  | halt => exact h s .refl
  | step upd next => exact (h s .refl).1

lemma wp_mono (h : p.wp others own I Q s) (hQ : ∀ a t, Q a t → R a t) :
    p.wp others own I R s := by
  induction p generalizing s with
  | done a => exact fun t ht => ⟨(h t ht).1, hQ a t (h t ht).2⟩
  | halt => exact h
  | step upd next ih => exact fun t ht => ⟨(h t ht).1, fun hown => ih t ((h t ht).2 hown)⟩

/-- **One program after the other.** -/
theorem wp_bind {q : Thread σ β} {k : β → Thread σ α}
    (h : q.wp others own I (fun b t => (k b).wp others own I Q t) s) :
    (q >>= k).wp others own I Q s := by
  induction q generalizing s with
  | done b => exact (h s .refl).2
  | halt => exact h
  | step upd next ih => exact fun t ht => ⟨(h t ht).1, fun hown => ih t ((h t ht).2 hown)⟩

/-- **A step**, taken under a stable assertion. -/
theorem wp_step {upd : σ → σ} {next : σ → Thread σ α} (hs : P s) (hP : Stable others P)
    (hI : ∀ t, P t → I t)
    (h : ∀ t, P t → own t (upd t) → (next t).wp others own I Q (upd t)) :
    (step upd next).wp others own I Q s := fun t ht =>
  ⟨hI t (hP.steps hs ht), h t (hP.steps hs ht)⟩

/-- A result, under a stable assertion. -/
theorem wp_done {a : α} (hs : P s) (hP : Stable others P) (hI : ∀ t, P t → I t)
    (h : ∀ t, P t → Q a t) : (done a).wp others own I Q s := fun t ht =>
  ⟨hI t (hP.steps hs ht), h t (hP.steps hs ht)⟩

theorem wp_halt (hs : P s) (hP : Stable others P) (hI : ∀ t, P t → I t) :
    (halt : Thread σ α).wp others own I Q s := fun t ht => hI t (hP.steps hs ht)

/-- **What it means over runs**: along every run on which the condition holds, the rest of the
thread still goes well. -/
theorem wp_run {others : σ → ε → σ → Prop} {cond : σ → Option ε → σ → Prop} {as : List (Option ε)}
    {q : Thread σ α} (hr : Run (GuardedStep others cond) (s, p) as (t, q))
    (h : p.wp (fun s t => ∃ e, others s e t ∧ cond s (some e) t) (fun s t => cond s none t) I Q s) :
    q.wp (fun s t => ∃ e, others s e t ∧ cond s (some e) t) (fun s t => cond s none t) I Q t := by
  refine hr.invariant (P := fun c : σ × Thread σ α =>
    c.2.wp (fun s t => ∃ e, others s e t ∧ cond s (some e) t) (fun s t => cond s none t) I Q c.1)
    ?_ h
  rintro ⟨s, p⟩ a ⟨t, q⟩ hwp ⟨hst, hcond⟩
  cases hst with
  | own s upd next => exact (hwp s .refl).2 hcond
  | other ho => exact wp_others hwp (.single ⟨_, ho, hcond⟩)

end Wp

/-! ## Triples -/

section Triple

variable (others : σ → σ → Prop) (own : σ → σ → Prop) (I : σ → Prop)

/-- An assertion that the others keep, and under which `I` holds. -/
def Sound (P : σ → Prop) : Prop := Stable others P ∧ ∀ t, P t → I t

/-- From `P` the thread goes well and comes to `Q`. -/
def Triple (P : σ → Prop) (p : Thread σ α) (Q : α → σ → Prop) : Prop :=
  ∀ s, P s → p.wp others own I Q s

variable {others own I} {P P' : σ → Prop} {Q Q' : α → σ → Prop} {R : β → σ → Prop}

/-- What does not depend on the state is added. -/
lemma Sound.and_pure {φ : Prop} (h : Sound others I P) : Sound others I fun s => φ ∧ P s :=
  ⟨fun _ _ hs hst => ⟨hs.1, h.1 _ _ hs.2 hst⟩, fun _ ht => h.2 _ ht.2⟩

theorem Triple.bind {q : Thread σ β} {k : β → Thread σ α} (hq : Triple others own I P q R)
    (hk : ∀ b, Triple others own I (R b) (k b) Q) : Triple others own I P (q >>= k) Q :=
  fun s hs => wp_bind (wp_mono (hq s hs) fun b t ht => hk b t ht)

theorem Triple.mono {p : Thread σ α} (h : Triple others own I P p Q) (hP : ∀ s, P' s → P s)
    (hQ : ∀ a s, Q a s → Q' a s) : Triple others own I P' p Q' :=
  fun s hs => wp_mono (h s (hP s hs)) hQ

/-- What does not depend on the state is taken out. -/
theorem Triple.of_pure {φ : Prop} {p : Thread σ α} (h : φ → Triple others own I P p Q) :
    Triple others own I (fun s => φ ∧ P s) p Q := fun s hs => h hs.1 s hs.2

theorem Triple.done {a : α} (hP : Sound others I P) (h : ∀ t, P t → Q a t) :
    Triple others own I P (done a) Q := fun _ hs => wp_done hs hP.1 hP.2 h

theorem Triple.halt (hP : Sound others I P) : Triple others own I P (halt : Thread σ α) Q :=
  fun _ hs => wp_halt hs hP.1 hP.2

/-- **A step**, into the assertion of what comes next. -/
theorem Triple.step {upd : σ → σ} {next : σ → Thread σ α} {R : σ → σ → Prop}
    (hP : Sound others I P) (hupd : ∀ t, P t → own t (upd t) → R t (upd t))
    (hnext : ∀ t, Triple others own I (R t) (next t) Q) :
    Triple others own I P (step upd next) Q :=
  fun _ hs => wp_step hs hP.1 hP.2 fun t ht hown => hnext t _ (hupd t ht hown)

/-- **A critical section.** -/
theorem Triple.atomic {f : σ → β × σ} (hP : Sound others I P) (hR : ∀ b, Sound others I (R b))
    (h : ∀ t, P t → own t (f t).2 → R (f t).1 (f t).2) :
    Triple others own I P (atomic f) R :=
  Triple.step (R := fun t u => R (f t).1 u) hP h fun _ => Triple.done (hR _) fun _ ht => ht

/-- **What it means over runs.** -/
theorem Triple.run {others : σ → ε → σ → Prop} {cond : σ → Option ε → σ → Prop}
    {as : List (Option ε)} {p : Thread σ α} {s t : σ} {a : α}
    (h : Triple (fun s t => ∃ e, others s e t ∧ cond s (some e) t) (fun s t => cond s none t) I P p
      Q) (hs : P s) (hr : Run (GuardedStep others cond) (s, p) as (t, Thread.done a)) : Q a t :=
  (wp_run hr (h s hs) t .refl).2

end Triple

/-! ## What the others leave alone -/

section View

variable {τ : Type} (others : σ → σ → Prop) (view : σ → τ)

/-- What a thread can come to, in terms of a part of the state that the others do not change. -/
def Ends (p : Thread σ α) (v : τ) (Q : α → τ → Prop) : Prop :=
  ∀ s, view s = v →
    p.wp others (fun _ _ => True) (fun _ => True) (fun a t => Q a (view t)) s

variable {others view} {Q R : α → τ → Prop} {v : τ} {p : Thread σ α}

lemma view_steps (hview : ∀ s t, others s t → view t = view s) {s t : σ}
    (hst : Relation.ReflTransGen others s t) : view t = view s := by
  induction hst with
  | refl => rfl
  | tail _ h ih => rw [hview _ _ h, ih]

lemma ends_mono (h : p.Ends others view v Q) (hQ : ∀ a w, Q a w → R a w) :
    p.Ends others view v R := fun s hs => wp_mono (h s hs) fun a _ => hQ a _

lemma ends_done (hview : ∀ s t, others s t → view t = view s) {a : α} (h : Q a v) :
    (done a).Ends others view v Q := by
  intro s hs t hst
  have hQ : Q a (view t) := by rwa [view_steps hview hst, hs]
  exact ⟨trivial, hQ⟩

lemma ends_halt : (halt : Thread σ α).Ends others view v Q := fun _ _ _ _ => trivial

/-- A step of the thread. -/
theorem ends_step (hview : ∀ s t, others s t → view t = view s) {upd : σ → σ}
    {next : σ → Thread σ α} (h : ∀ s, view s = v → (next s).Ends others view (view (upd s)) Q) :
    (step upd next).Ends others view v Q := by
  intro s hs t hst
  have ht : view t = v := by rw [view_steps hview hst, hs]
  exact ⟨trivial, fun _ => h t ht (upd t) rfl⟩

/-- One program after the other. -/
theorem ends_bind {q : Thread σ β} {k : β → Thread σ α}
    (h : q.Ends others view v fun b w => (k b).Ends others view w Q) :
    (q >>= k).Ends others view v Q := fun s hs =>
  wp_bind (wp_mono (h s hs) fun _ t ht => ht t rfl)

/-- **What it means over runs.** -/
theorem Ends.run {others : σ → ε → σ → Prop} {as : List (Option ε)} {s t : σ} {a : α}
    (h : p.Ends (fun s t => ∃ e, others s e t) view (view s) Q)
    (hr : Run (Step others) (s, p) as (t, done a)) : Q a (view t) := by
  have hg : Run (GuardedStep others fun _ _ _ => True) (s, p) as (t, done a) :=
    hr.mono fun _ _ _ hst => ⟨hst, trivial⟩
  have hwp := wp_run (I := fun _ => True) hg (by simpa only [and_true] using h s rfl)
  exact (hwp t .refl).2

end View

/-! ## Executing a thread among others -/

section Execution

variable (act : σ → ε → Option σ) (cond : σ → Option ε → σ → Prop)
  [∀ s a t, Decidable (cond s a t)]

/-- The step that is asked for: the thread's own, or one of the others. -/
def move (c : σ × Thread σ α) : Option ε → Option (σ × Thread σ α)
  | none =>
      match c.2 with
      | step upd next => some (upd c.1, next c.1)
      | _ => none
  | some e => (act c.1 e).map fun s => (s, c.2)

/-- The same, where the condition holds of it. -/
def advance (c : σ × Thread σ α) (a : Option ε) : Option ((σ × Thread σ α) × Option ε) :=
  (move act c a).bind fun c' => if cond c.1 a c'.1 then some (c', a) else none

/-- The result of a thread that is done. -/
def result : Thread σ α → Option α
  | done a => some a
  | _ => none

variable {act cond}

lemma step_of_move {c c' : σ × Thread σ α} {a : Option ε} (h : move act c a = some c') :
    Step (fun s e t => act s e = some t) c a c' := by
  rcases c with ⟨s, p⟩
  cases a with
  | none =>
      cases p with
      | done a => cases h
      | halt => cases h
      | step upd next =>
          cases h
          exact .own s upd next
  | some e =>
      obtain ⟨t, ht, hc⟩ := Option.map_eq_some_iff.mp h
      cases hc
      exact .other ht

lemma step_of_advance {c : σ × Thread σ α} {a : Option ε} {q : (σ × Thread σ α) × Option ε}
    (h : advance act cond c a = some q) :
    GuardedStep (fun s e t => act s e = some t) cond c q.2 q.1 := by
  obtain ⟨c', hmove, hq⟩ := Option.bind_eq_some_iff.mp h
  split at hq
  next hcond =>
    cases hq
    exact ⟨step_of_move hmove, hcond⟩
  next => cases hq

lemma eq_done_of_result {p : Thread σ α} {a : α} (h : p.result = some a) : p = done a := by
  cases p with
  | done b =>
      cases h
      rfl
  | halt => cases h
  | step upd next => cases h

/-- **What is executed is a run** to the result. -/
theorem exists_run [DecidableEq α] (act : σ → ε → Option σ) (cond : σ → Option ε → σ → Prop)
    [∀ s a t, Decidable (cond s a t)] (c : σ × Thread σ α) (as : List (Option ε)) (r : α)
    (Z : σ → Prop) [DecidablePred Z]
    (h : ((execBy (advance act cond) c as).map fun p =>
      decide (p.1.2.result = some r ∧ Z p.1.1)) = some true) :
    ∃ as t, Run (GuardedStep (fun s e t => act s e = some t) cond) c as (t, done r) ∧ Z t := by
  obtain ⟨⟨⟨t, p⟩, as'⟩, hexec, hp⟩ := Option.map_eq_some_iff.mp h
  obtain ⟨hresult, hZ⟩ := of_decide_eq_true hp
  have hrun := Run.of_execBy (fun _ _ _ => step_of_advance) hexec
  rw [show p = done r from eq_done_of_result hresult] at hrun
  exact ⟨as', t, hrun, hZ⟩

end Execution

/-! ## Programs over a part of the state -/

section Part

variable {τ γ δ : Type} (view : τ → σ) (put : σ → τ → τ)

/-- A program over a part of the state. -/
def zoom : Thread σ α → Thread τ α
  | done a => done a
  | halt => halt
  | step upd next => step (fun t => put (upd (view t)) t) fun t => zoom (next (view t))

/-- On a part of the state the first program does what the second does, besides steps that do not
change it; and the results are related. -/
inductive Hides (R : α → β → Prop) : Thread τ α → Thread σ β → Prop
  | done {a : α} {b : β} : R a b → Hides R (done a) (done b)
  | halt : Hides R halt halt
  | step {upd : τ → τ} {upd' : σ → σ} {next : τ → Thread τ α} {next' : σ → Thread σ β} :
      (∀ t, view (upd t) = upd' (view t)) → (∀ t, Hides R (next t) (next' (view t))) →
        Hides R (step upd next) (step upd' next')
  | silent {upd : τ → τ} {next : τ → Thread τ α} {q : Thread σ β} :
      (∀ t, view (upd t) = view t) → (∀ t, Hides R (next t) q) → Hides R (step upd next) q

variable {view put} {R : α → β → Prop} {S : γ → δ → Prop} {p : Thread τ α} {q : Thread σ β}

@[simp] lemma zoom_bind (p : Thread σ γ) (k : γ → Thread σ α) :
    (p >>= k).zoom view put = p.zoom view put >>= fun c => (k c).zoom view put := by
  induction p with
  | done c => rfl
  | halt => rfl
  | step upd next ih =>
      simp only [step_bind, zoom]
      congr 1
      funext t
      exact ih _

lemma hides_zoom (hput : ∀ s t, view (put s t) = s) (q : Thread σ α) :
    Hides view Eq (q.zoom view put) q := by
  induction q with
  | done a => exact .done rfl
  | halt => exact .halt
  | step upd next ih => exact .step (fun t => hput _ t) fun t => ih (view t)

/-- One program after the other. -/
theorem Hides.bind {k : α → Thread τ γ} {l : β → Thread σ δ} (h : Hides view R p q)
    (hk : ∀ a b, R a b → Hides view S (k a) (l b)) : Hides view S (p >>= k) (q >>= l) := by
  induction h with
  | done hab => exact hk _ _ hab
  | halt => exact .halt
  | step hupd _ ih => exact .step hupd ih
  | silent hupd _ ih => exact .silent hupd ih

/-- **What it means over runs**: the part of the state goes through a run of the second program. -/
theorem Hides.run {ε' : Type} {others : τ → ε → τ → Prop} {others' : σ → ε' → σ → Prop}
    (hothers : ∀ t e u, others t e u → ∃ e', others' (view t) e' (view u))
    {as : List (Option ε)} {t u : τ} {p' : Thread τ α} (h : Hides view R p q)
    (hr : Run (Step others) (t, p) as (u, p')) :
    ∃ as' q', Run (Step others') (view t, q) as' (view u, q') ∧ Hides view R p' q' := by
  refine hr.invariant (P := fun c : τ × Thread τ α => ∃ as' q',
    Run (Step others') (view t, q) as' (view c.1, q') ∧ Hides view R c.2 q') ?_ ⟨[], q, .nil _, h⟩
  rintro ⟨v, r⟩ a ⟨w, r'⟩ ⟨as', q', hrun, hides⟩ hst
  cases hst with
  | own v upd next =>
      cases hides with
      | step hupd hnext =>
          refine ⟨as' ++ [none], _, .snoc hrun ?_, hnext v⟩
          rw [hupd]
          exact .own _ _ _
      | silent hupd hnext =>
          refine ⟨as', q', ?_, hnext v⟩
          rw [hupd]
          exact hrun
  | other ho =>
      obtain ⟨e', he'⟩ := hothers _ _ _ ho
      exact ⟨as' ++ [some e'], q', .snoc hrun (.other he'), hides⟩

end Part

end Thread
