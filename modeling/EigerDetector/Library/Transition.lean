import Mathlib.Logic.Basic

/-! Finite runs of a labelled transition function. A run may be restricted to
steps which meet a condition on the state before the step and its label. -/
namespace Transition

variable {State Label : Type*}

/-- A run from `start`, each of whose steps is allowed where it is taken. -/
inductive Run (step : State → Label → Option State) (allowed : State → Label → Prop) :
    State → List Label → State → Prop where
  | nil (s : State) : Run step allowed s [] s
  | cons {s t u : State} {label : Label} {labels : List Label}
      (guard : allowed s label) (first : step s label = some t)
      (rest : Run step allowed t labels u) :
      Run step allowed s (label :: labels) u

/-- Every step is allowed. -/
def always : State → Label → Prop := fun _ _ => True

/-- Take the labels in order; `none` as soon as one of them has no step. -/
def exec (step : State → Label → Option State) : State → List Label → Option State
  | s, [] => some s
  | s, label :: labels => (step s label).bind fun t => exec step t labels

variable {step : State → Label → Option State} {allowed : State → Label → Prop}

/-- What one allowed step preserves, a whole run preserves. -/
theorem Run.invariant {inv : State → Prop} {s t : State} {labels : List Label}
    (run : Run step allowed s labels t) (hInit : inv s)
    (hStep : ∀ s label t, inv s → allowed s label → step s label = some t → inv t) :
    inv t := by
  induction run with
  | nil => exact hInit
  | cons guard first rest ih => exact ih (hStep _ _ _ hInit guard first)

/-- A run goes through as many stages as it has steps that advance. -/
theorem Run.staged {k : Nat} {s t : State} {labels : List Label}
    (run : Run step allowed s labels t) (stage : Nat → State → Prop) (advances : Label → Bool)
    (limit : Nat) (hInit : stage k s)
    (hLimit : k + labels.countP advances ≤ limit)
    (hAdvance : ∀ k s label t, stage k s → k < limit → advances label = true →
      allowed s label → step s label = some t → stage (k + 1) t)
    (hStay : ∀ k s label t, stage k s → advances label = false → allowed s label →
      step s label = some t → stage k t) :
    stage (k + labels.countP advances) t := by
  induction run generalizing k with
  | nil => exact hInit
  | @cons s _ _ label labels guard first rest ih =>
      by_cases hLabel : advances label = true
      · rw [List.countP_cons_of_pos hLabel] at hLimit ⊢
        have hNext := hAdvance k s label _ hInit (by omega) hLabel guard first
        have hEnd := ih hNext (by omega)
        rwa [Nat.add_assoc, Nat.add_comm 1] at hEnd
      · rw [List.countP_cons_of_neg hLabel] at hLimit ⊢
        exact ih (hStay k s label _ hInit (Bool.eq_false_iff.mpr hLabel) guard first) hLimit

/-- A weaker restriction admits the same run. -/
theorem Run.mono {allowed' : State → Label → Prop} {s t : State} {labels : List Label}
    (run : Run step allowed s labels t) (h : ∀ s label, allowed s label → allowed' s label) :
    Run step allowed' s labels t := by
  induction run with
  | nil => exact .nil _
  | cons guard first rest ih => exact .cons (h _ _ guard) first ih

/-- A run that meets two restrictions meets both at once. -/
theorem Run.and {allowed' : State → Label → Prop} {s t u : State} {labels : List Label}
    (run : Run step allowed s labels t) (other : Run step allowed' s labels u) :
    Run step (fun s label => allowed s label ∧ allowed' s label) s labels t := by
  induction run with
  | nil => exact .nil _
  | cons guard first rest ih =>
      cases other with
      | cons guard' first' rest' =>
          cases first.symm.trans first'
          exact .cons ⟨guard, guard'⟩ first (ih rest')

theorem Run.append {s t u : State} {first second : List Label}
    (left : Run step allowed s first t) (right : Run step allowed t second u) :
    Run step allowed s (first ++ second) u := by
  induction left with
  | nil => exact right
  | cons guard head rest ih => exact .cons guard head (ih right)

/-- A second system which can follow every allowed step can follow every run. -/
theorem Run.simulation {State' : Type*} {step' : State' → Label → Option State'}
    {rel : State → State' → Prop} {s t : State} {s' : State'} {labels : List Label}
    (run : Run step allowed s labels t) (hRel : rel s s')
    (hStep : ∀ s label t s', allowed s label → step s label = some t → rel s s' →
      ∃ t', step' s' label = some t' ∧ rel t t') :
    ∃ t', exec step' s' labels = some t' ∧ rel t t' := by
  induction run generalizing s' with
  | nil => exact ⟨s', rfl, hRel⟩
  | cons guard first rest ih =>
      obtain ⟨middle, hFirst, hMiddle⟩ := hStep _ _ _ _ guard first hRel
      obtain ⟨t', hRest, hFinal⟩ := ih hMiddle
      refine ⟨t', ?_, hFinal⟩
      rw [exec, hFirst, Option.bind_some, hRest]

/-- Steps which are not allowed are left out. -/
def guarded (step : State → Label → Option State) (allowed : State → Label → Prop)
    [∀ s label, Decidable (allowed s label)] (s : State) (label : Label) : Option State :=
  if allowed s label then step s label else none

/-- Runs of allowed steps are the executions in which only these are left. -/
theorem run_iff_exec_guarded [∀ s label, Decidable (allowed s label)] {s t : State}
    {labels : List Label} :
    Run step allowed s labels t ↔ exec (guarded step allowed) s labels = some t := by
  induction labels generalizing s with
  | nil =>
      constructor
      · rintro ⟨⟩
        rfl
      · intro h
        cases h
        exact .nil _
  | cons label labels ih =>
      constructor
      · intro run
        cases run with
        | cons guard first rest =>
            rw [exec, guarded, if_pos guard, first, Option.bind_some, ih.mp rest]
      · intro h
        obtain ⟨middle, hFirst, hRest⟩ := Option.bind_eq_some_iff.mp h
        rw [guarded] at hFirst
        split at hFirst
        · next guard => exact .cons guard hFirst (ih.mpr hRest)
        · cases hFirst

instance (s : State) (label : Label) : Decidable (always s label) := .isTrue trivial

/-- Unrestricted runs are exactly the executions of the transition function. -/
theorem run_always_iff {s t : State} {labels : List Label} :
    Run step always s labels t ↔ exec step s labels = some t := by
  have hAll : guarded step always = step := by
    funext s label
    exact if_pos trivial
  rw [run_iff_exec_guarded, hAll]

/-- A restricted run takes the steps of the transition function. -/
theorem Run.executes {s t : State} {labels : List Label} (run : Run step allowed s labels t) :
    Transition.exec step s labels = some t :=
  run_always_iff.mp (run.mono fun _ _ _ => trivial)

/-- What holds in every state that the labels lead through. -/
def Along (step : State → Label → Option State) (P : State → Prop) : State → List Label → Prop
  | s, [] => P s
  | s, label :: labels => P s ∧ ∀ t, step s label = some t → Along step P t labels

/-- What an invariant of allowed steps implies holds all along a run. -/
theorem Run.along (inv : State → Prop) {P : State → Prop} {s t : State} {labels : List Label}
    (run : Run step allowed s labels t) (hInit : inv s) (hHolds : ∀ s, inv s → P s)
    (hStep : ∀ s label t, inv s → allowed s label → step s label = some t → inv t) :
    Along step P s labels := by
  induction run with
  | nil => exact hHolds _ hInit
  | cons guard first rest ih =>
      refine ⟨hHolds _ hInit, fun other hOther => ?_⟩
      cases first.symm.trans hOther
      exact ih (hStep _ _ _ hInit guard first)

/-- If allowed steps keep a property and every other step ends it, then the property
holds along a run of proper labels exactly if all of its steps are allowed. -/
theorem along_iff_run_of (proper : Label → Prop) (inv : State → Prop) {P : State → Prop}
    {s t : State} {labels : List Label} (hLabels : ∀ label ∈ labels, proper label)
    (hInit : inv s) (hHolds : ∀ s, inv s → P s)
    (hStep : ∀ s label t, inv s → proper label → allowed s label → step s label = some t → inv t)
    (hEnds : ∀ s label t, inv s → proper label → ¬ allowed s label → step s label = some t →
      ¬ P t)
    (hExec : exec step s labels = some t) :
    Along step P s labels ↔ Run step allowed s labels t := by
  induction labels generalizing s with
  | nil =>
      cases hExec
      exact ⟨fun _ => .nil _, fun _ => hHolds _ hInit⟩
  | cons label labels ih =>
      obtain ⟨middle, hFirst, hRest⟩ := Option.bind_eq_some_iff.mp hExec
      obtain ⟨hProper, hLabels⟩ := List.forall_mem_cons.mp hLabels
      constructor
      · rintro ⟨_, hAlong⟩
        have hMiddle := hAlong middle hFirst
        by_cases hAllowed : allowed s label
        · have hInv := hStep _ _ _ hInit hProper hAllowed hFirst
          exact .cons hAllowed hFirst ((ih hLabels hInv hRest).mp hMiddle)
        · have hBroken := hEnds _ _ _ hInit hProper hAllowed hFirst
          cases labels with
          | nil => exact absurd hMiddle hBroken
          | cons next labels => exact absurd hMiddle.1 hBroken
      · intro run
        cases run with
        | cons hAllowed hTaken rest =>
            cases hFirst.symm.trans hTaken
            refine ⟨hHolds _ hInit, fun other hOther => ?_⟩
            cases hFirst.symm.trans hOther
            exact (ih hLabels (hStep _ _ _ hInit hProper hAllowed hFirst) hRest).mpr rest

/-- The same for runs of any labels. -/
theorem along_iff_run (inv : State → Prop) {P : State → Prop} {s t : State} {labels : List Label}
    (hInit : inv s) (hHolds : ∀ s, inv s → P s)
    (hStep : ∀ s label t, inv s → allowed s label → step s label = some t → inv t)
    (hEnds : ∀ s label t, inv s → ¬ allowed s label → step s label = some t → ¬ P t)
    (hExec : exec step s labels = some t) :
    Along step P s labels ↔ Run step allowed s labels t :=
  along_iff_run_of (fun _ => True) inv (fun _ _ => trivial) hInit hHolds
    (fun s label t h _ => hStep s label t h) (fun s label t h _ => hEnds s label t h) hExec

/-- A property that a step keeps exactly if it is allowed holds at the end of a run exactly
if it holds at its start and all steps are allowed. -/
theorem gained_iff_run (inv : State → Prop) {P : State → Prop} {s t : State} {labels : List Label}
    (hInit : inv s)
    (hStep : ∀ s label t, inv s → step s label = some t →
      inv t ∧ (P t ↔ P s ∧ allowed s label))
    (hExec : exec step s labels = some t) :
    P t ↔ P s ∧ Run step allowed s labels t := by
  induction labels generalizing s with
  | nil =>
      cases hExec
      exact ⟨fun h => ⟨h, .nil _⟩, fun h => h.1⟩
  | cons label labels ih =>
      obtain ⟨middle, hFirst, hRest⟩ := Option.bind_eq_some_iff.mp hExec
      obtain ⟨hInv, hMiddle⟩ := hStep _ _ _ hInit hFirst
      rw [ih hInv hRest, hMiddle]
      constructor
      · rintro ⟨⟨hStart, hAllowed⟩, run⟩
        exact ⟨hStart, .cons hAllowed hFirst run⟩
      · rintro ⟨hStart, run⟩
        cases run with
        | cons hAllowed hTaken rest =>
            cases hFirst.symm.trans hTaken
            exact ⟨⟨hStart, hAllowed⟩, rest⟩

end Transition
