import Mathlib.Data.List.Forall2

namespace JVLinkServer

/-! # Computations that may fail

When a computation that is put together from others fails, and what it returns otherwise.
-/

section Outcomes

variable {ε α β : Type}

def Fails (outcome : Except ε α) : Prop := ∃ error, outcome = .error error

@[simp] theorem not_fails_ok (value : α) : ¬ Fails (.ok value : Except ε α) := by
  rintro ⟨error, same⟩
  cases same

@[simp] theorem not_fails_pure (value : α) : ¬ Fails (pure value : Except ε α) :=
  not_fails_ok value

@[simp] theorem fails_error (error : ε) : Fails (.error error : Except ε α) := ⟨error, rfl⟩

theorem not_fails_iff {outcome : Except ε α} : ¬ Fails outcome ↔ ∃ value, outcome = .ok value := by
  cases outcome with
  | error error => simp
  | ok value => simp

theorem fails_bind_iff {outcome : Except ε α} {next : α → Except ε β} :
    Fails (outcome >>= next) ↔ Fails outcome ∨ ∃ value, outcome = .ok value ∧ Fails (next value) := by
  cases outcome with
  | error error => exact iff_of_true (fails_error error) (.inl (fails_error error))
  | ok value =>
      change Fails (next value) ↔ _
      simp

/-- A last step that cannot fail. -/
theorem fails_bind_pure {outcome : Except ε α} (result : α → β) :
    Fails (do return result (← outcome)) ↔ Fails outcome := by
  rw [fails_bind_iff]
  simp

/-- A step whose failure does not depend on what came before. -/
theorem fails_bind_const {outcome : Except ε α} {next : α → Except ε β} {later : Prop}
    (independent : ∀ value, Fails (next value) ↔ later) :
    Fails (outcome >>= next) ↔ Fails outcome ∨ later := by
  rw [fails_bind_iff]
  cases outcome with
  | error error => simp
  | ok value => simp [independent]

theorem bind_ok_iff {outcome : Except ε α} {next : α → Except ε β} {result : β} :
    (outcome >>= next) = .ok result ↔ ∃ value, outcome = .ok value ∧ next value = .ok result := by
  cases outcome with
  | error error => simp [bind, Except.bind]
  | ok value => simp [bind, Except.bind]

theorem fails_mapM_iff {step : α → Except ε β} {items : List α} :
    Fails (items.mapM step) ↔ ∃ item ∈ items, Fails (step item) := by
  induction items with
  | nil => simp
  | cons item items ih =>
      rw [List.mapM_cons, fails_bind_iff, List.exists_mem_cons_iff]
      constructor
      · rintro (first | ⟨value, done, rest⟩)
        · exact .inl first
        · exact .inr (ih.mp ((fails_bind_pure _).mp rest))
      · intro either
        by_cases first : Fails (step item)
        · exact .inl first
        · obtain ⟨value, done⟩ := not_fails_iff.mp first
          have rest := either.resolve_left first
          exact .inr ⟨value, done, (fails_bind_pure _).mpr (ih.mpr rest)⟩

theorem mapM_ok_iff {step : α → Except ε β} {items : List α} {results : List β} :
    items.mapM step = .ok results ↔
      List.Forall₂ (fun item result => step item = .ok result) items results := by
  induction items generalizing results with
  | nil => simp [pure, Except.pure, eq_comm]
  | cons item items ih =>
      rw [List.mapM_cons, bind_ok_iff, List.forall₂_cons_left_iff]
      constructor
      · rintro ⟨value, first, rest⟩
        obtain ⟨values, later, same⟩ := bind_ok_iff.mp rest
        exact ⟨value, values, first, ih.mp later, (Except.ok.inj same).symm⟩
      · rintro ⟨value, values, first, later, same⟩
        exact ⟨value, first, bind_ok_iff.mpr ⟨values, ih.mpr later, congrArg Except.ok same.symm⟩⟩

/-- The results are labelled as their items are. -/
theorem mapM_ok_map {γ : Type} {step : α → Except ε β} {items : List α} {results : List β}
    {label : α → γ} {labelled : β → γ}
    (kept : ∀ item result, step item = .ok result → labelled result = label item)
    (done : items.mapM step = .ok results) : results.map labelled = items.map label := by
  have steps := mapM_ok_iff.mp done
  clear done
  induction steps with
  | nil => rfl
  | cons first _ ih => rw [List.map_cons, List.map_cons, kept _ _ first, ih]

end Outcomes

end JVLinkServer
