import Mathlib

namespace JVLinkServer.Transition

/-! # Runs of a labelled transition function

A system is a function `step : σ → ι → Option σ`: the label carries every choice
of the scheduler and of the environment, and `none` means that the action is not
enabled.  A schedule is a list of labels, so "every interleaving" is "every list".
-/

variable {σ ι : Type} {step : σ → ι → Option σ}

/-- Run a schedule; `none` as soon as one of its actions is not enabled. -/
def run (step : σ → ι → Option σ) (state : σ) : List ι → Option σ
  | [] => some state
  | action :: rest => (step state action).bind fun next => run step next rest

/-- Every action of the schedule is taken in a state in which it is allowed. -/
def Along (step : σ → ι → Option σ) (allowed : σ → ι → Prop) (state : σ) : List ι → Prop
  | [] => True
  | action :: rest =>
      allowed state action ∧ ∀ next, step state action = some next → Along step allowed next rest

instance Along.decidable (allowed : σ → ι → Prop) [∀ state action, Decidable (allowed state action)]
    (state : σ) (schedule : List ι) : Decidable (Along step allowed state schedule) :=
  match schedule with
  | [] => isTrue trivial
  | action :: rest =>
      match taken : step state action with
      | none => decidable_of_iff (allowed state action) (by simp [Along, taken])
      | some next =>
          have := Along.decidable allowed next rest
          decidable_of_iff (allowed state action ∧ Along step allowed next rest)
            (by simp [Along, taken])

@[simp] theorem run_nil (state : σ) : run step state [] = some state := rfl

theorem run_cons_eq_some {start state : σ} {action : ι} {rest : List ι} :
    run step start (action :: rest) = some state ↔
      ∃ next, step start action = some next ∧ run step next rest = some state := by
  simp [run, Option.bind_eq_some_iff]

theorem run_append (start : σ) (first second : List ι) :
    run step start (first ++ second) = (run step start first).bind fun middle =>
      run step middle second := by
  induction first generalizing start with
  | nil => rfl
  | cons action rest ih =>
      simp only [List.cons_append, run, Option.bind_assoc]
      exact congrArg _ (funext ih)

/-- A predicate that every step preserves holds at the end of every run. -/
theorem run_preserves (kept : σ → Prop)
    (preserved : ∀ state action next, kept state → step state action = some next → kept next)
    {start state : σ} {schedule : List ι} (holds : kept start)
    (ran : run step start schedule = some state) : kept state := by
  induction schedule generalizing start with
  | nil =>
      cases ran
      exact holds
  | cons action rest ih =>
      obtain ⟨next, taken, ran⟩ := run_cons_eq_some.mp ran
      exact ih (preserved start action next holds taken) ran

/-- The same for a predicate that only the allowed steps preserve, along a run
all of whose steps are allowed. -/
theorem run_preserves_along (kept : σ → Prop) {allowed : σ → ι → Prop}
    (preserved : ∀ state action next, kept state → allowed state action →
      step state action = some next → kept next)
    {start state : σ} {schedule : List ι} (holds : kept start)
    (along : Along step allowed start schedule)
    (ran : run step start schedule = some state) : kept state := by
  induction schedule generalizing start with
  | nil =>
      cases ran
      exact holds
  | cons action rest ih =>
      obtain ⟨next, taken, ran⟩ := run_cons_eq_some.mp ran
      exact ih (preserved start action next holds along.1 taken) (along.2 next taken) ran

/-- Being allowed everywhere is being allowed along the run. -/
theorem Along.of_forall {allowed : σ → ι → Prop} {start : σ} {schedule : List ι}
    (everywhere : ∀ state, ∀ action ∈ schedule, allowed state action) :
    Along step allowed start schedule := by
  induction schedule generalizing start with
  | nil => trivial
  | cons action rest ih =>
      exact ⟨everywhere start action (by simp),
        fun next _ => ih fun state other member => everywhere state other (by simp [member])⟩

/-- A longer run is allowed when its first part is and, from where that ends, the
rest is. -/
theorem Along.append {allowed : σ → ι → Prop} {start middle : σ} {first second : List ι}
    (along : Along step allowed start first) (ran : run step start first = some middle)
    (rest : Along step allowed middle second) : Along step allowed start (first ++ second) := by
  induction first generalizing start with
  | nil =>
      cases ran
      exact rest
  | cons action first ih =>
      obtain ⟨next, taken, ran⟩ := run_cons_eq_some.mp ran
      refine ⟨along.1, fun other takenOther => ?_⟩
      obtain rfl : next = other := by simpa [taken] using takenOther
      exact ih (along.2 next taken) ran

theorem Along.mono {allowed allowed' : σ → ι → Prop} {start : σ} {schedule : List ι}
    (weaker : ∀ state action, allowed state action → allowed' state action)
    (along : Along step allowed start schedule) : Along step allowed' start schedule := by
  induction schedule generalizing start with
  | nil => trivial
  | cons action rest ih =>
      exact ⟨weaker start action along.1, fun next taken => ih (along.2 next taken)⟩

end JVLinkServer.Transition
