import Mathlib.Data.List.Basic

/-! Finite runs of a labelled transition relation, from a fixed start. The
labels are kept in order, the newest last. A guard restricts the steps of a
relation; forgetting it gives back an ordinary run. -/

namespace P2PLending

variable {σ α τ : Type*}

inductive Run (step : σ → α → σ → Prop) (start : σ) : List α → σ → Prop
  | nil : Run step start [] start
  | snoc {labels : List α} {s t : σ} {a : α} :
      Run step start labels s → step s a t → Run step start (labels ++ [a]) t

/-- The steps of `step` whose source state admits the label. -/
def guarded (step : σ → α → σ → Prop) (admits : σ → α → Prop) : σ → α → σ → Prop :=
  fun s a t => admits s a ∧ step s a t

namespace Run

variable {step : σ → α → σ → Prop} {start s t : σ} {labels : List α}

theorem append {labels' : List α} (first : Run step start labels s)
    (next : Run step s labels' t) : Run step start (labels ++ labels') t := by
  induction next with
  | nil => rwa [List.append_nil]
  | snoc _ hstep ih =>
      rw [← List.append_assoc]
      exact ih.snoc hstep

theorem invariant (I : σ → Prop) (initial : I start)
    (keeps : ∀ s a t, I s → step s a t → I t) (run : Run step start labels s) : I s := by
  induction run with
  | nil => exact initial
  | snoc _ hstep ih => exact keeps _ _ _ ih hstep

theorem of_guarded {admits : σ → α → Prop}
    (run : Run (guarded step admits) start labels s) : Run step start labels s := by
  induction run with
  | nil => exact .nil
  | snoc _ hstep ih => exact ih.snoc hstep.2

theorem mono {step' : σ → α → σ → Prop} (weaker : ∀ s a t, step s a t → step' s a t)
    (run : Run step start labels s) : Run step' start labels s := by
  induction run with
  | nil => exact .nil
  | snoc _ hstep ih => exact ih.snoc (weaker _ _ _ hstep)

/-- An invariant of the steps whose labels have a property, in the runs whose
labels all do. -/
theorem invariant_of_labels (I : σ → Prop) (L : α → Prop) (initial : I start)
    (keeps : ∀ s a t, I s → L a → step s a t → I t) (labelled : ∀ a ∈ labels, L a)
    (run : Run step start labels s) : I s := by
  induction run with
  | nil => exact initial
  | snoc _ hstep ih =>
      have before := ih fun a listed => labelled a (List.mem_append_left _ listed)
      exact keeps _ _ _ before (labelled _ (List.mem_append_right _ List.mem_cons_self)) hstep

/-- When a step from a good state has a property and reaches a good state exactly
if it is admitted, the runs of such steps are the guarded runs. -/
theorem through_steps_iff_guarded {I : σ → Prop} {P : σ → α → σ → Prop} {admits : σ → α → Prop}
    (initial : I start)
    (exact_step : ∀ s a t, I s → step s a t → (P s a t ∧ I t ↔ admits s a)) :
    Run (fun s a t => step s a t ∧ P s a t ∧ I t) start labels s ↔
      Run (guarded step admits) start labels s := by
  constructor
  · intro run
    have both : Run (guarded step admits) start labels s ∧ I s := by
      induction run with
      | nil => exact ⟨.nil, initial⟩
      | snoc _ hstep ih =>
          have admitted := (exact_step _ _ _ ih.2 hstep.1).mp hstep.2
          exact ⟨ih.1.snoc ⟨admitted, hstep.1⟩, hstep.2.2⟩
    exact both.1
  · intro run
    have both : Run (fun s a t => step s a t ∧ P s a t ∧ I t) start labels s ∧ I s := by
      induction run with
      | nil => exact ⟨.nil, initial⟩
      | snoc _ hstep ih =>
          have good := (exact_step _ _ _ ih.2 hstep.2).mpr hstep.1
          exact ⟨ih.1.snoc ⟨hstep.2, good⟩, good.2⟩
    exact both.1

/-- When a step from a good state reaches a good state exactly if it is admitted,
the runs through good states are the guarded runs. -/
theorem through_iff_guarded {I : σ → Prop} {admits : σ → α → Prop} (initial : I start)
    (exact_step : ∀ s a t, I s → step s a t → (I t ↔ admits s a)) :
    Run (fun s a t => step s a t ∧ I t) start labels s ↔
      Run (guarded step admits) start labels s := by
  have all_steps : Run (fun s a t => step s a t ∧ True ∧ I t) start labels s ↔
      Run (guarded step admits) start labels s := by
    apply through_steps_iff_guarded initial
    intro s a t good hstep
    rw [true_and]
    exact exact_step s a t good hstep
  rw [← all_steps]
  simp only [true_and]

/-- When, under an invariant that the admitted steps keep, a step has a property exactly if it
is admitted, the runs whose steps all have it are the guarded runs. -/
theorem steps_iff_guarded_of_admitted {I : σ → Prop} {P : σ → α → σ → Prop}
    {admits : σ → α → Prop} (initial : I start)
    (keeps : ∀ s a t, I s → step s a t → admits s a → I t)
    (exact_step : ∀ s a t, I s → step s a t → (P s a t ↔ admits s a)) :
    Run (fun s a t => step s a t ∧ P s a t) start labels s ↔
      Run (guarded step admits) start labels s := by
  constructor
  · intro run
    have both : Run (guarded step admits) start labels s ∧ I s := by
      induction run with
      | nil => exact ⟨.nil, initial⟩
      | snoc _ hstep ih =>
          have admitted := (exact_step _ _ _ ih.2 hstep.1).mp hstep.2
          exact ⟨ih.1.snoc ⟨admitted, hstep.1⟩, keeps _ _ _ ih.2 hstep.1 admitted⟩
    exact both.1
  · intro run
    have both : Run (fun s a t => step s a t ∧ P s a t) start labels s ∧ I s := by
      induction run with
      | nil => exact ⟨.nil, initial⟩
      | snoc _ hstep ih =>
          have good := (exact_step _ _ _ ih.2 hstep.2).mpr hstep.1
          exact ⟨ih.1.snoc ⟨hstep.2, good⟩, keeps _ _ _ ih.2 hstep.2 hstep.1⟩
    exact both.1

/-- When, under an invariant, a step has a property exactly if it is admitted,
the runs whose steps all have it are the guarded runs. -/
theorem steps_iff_guarded {I : σ → Prop} {P : σ → α → σ → Prop} {admits : σ → α → Prop}
    (initial : I start) (keeps : ∀ s a t, I s → step s a t → I t)
    (exact_step : ∀ s a t, I s → step s a t → (P s a t ↔ admits s a)) :
    Run (fun s a t => step s a t ∧ P s a t) start labels s ↔
      Run (guarded step admits) start labels s :=
  steps_iff_guarded_of_admitted initial (fun s a t good hstep _ => keeps s a t good hstep)
    exact_step

/-- When, under an invariant, a state has a property exactly if the state before had
it and the step was admitted, a run ends with it exactly if it is a guarded run. -/
theorem ends_iff_guarded {I J : σ → Prop} {admits : σ → α → Prop} (initial : I start)
    (holds : J start) (keeps : ∀ s a t, I s → step s a t → I t)
    (exact_step : ∀ s a t, I s → step s a t → (J t ↔ J s ∧ admits s a))
    (run : Run step start labels s) : J s ↔ Run (guarded step admits) start labels s := by
  constructor
  · have both : I s ∧ (J s → Run (guarded step admits) start labels s) := by
      induction run with
      | nil => exact ⟨initial, fun _ => .nil⟩
      | snoc _ hstep ih =>
          refine ⟨keeps _ _ _ ih.1 hstep, fun last => ?_⟩
          have before := (exact_step _ _ _ ih.1 hstep).mp last
          exact (ih.2 before.1).snoc ⟨before.2, hstep⟩
    exact both.2
  · intro admitted
    have both : I s ∧ J s := by
      refine admitted.invariant (fun s => I s ∧ J s) ⟨initial, holds⟩ fun s a t before hstep => ?_
      exact ⟨keeps _ _ _ before.1 hstep.2,
        (exact_step _ _ _ before.1 hstep.2).mpr ⟨before.2, hstep.1⟩⟩
    exact both.2

end Run

end P2PLending
