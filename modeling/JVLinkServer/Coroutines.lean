import JVLinkServer.Effects

namespace JVLinkServer.Coroutines

open Effects

/-! # What leaves a coroutine

A clause for `Exception` does not see the cancellation of the task, a `finally` clause
sees every way out.
-/

variable {σ ε α : Type}

/-- An instance of `Exception`, or the cancellation of the task. -/
inductive Raised (ε : Type)
  | error (exception : ε)
  | cancelled
  deriving DecidableEq, Repr

abbrev Coroutine (σ ε α : Type) := EStateM (Raised ε) σ α

/-- An `await`, by what comes of it. -/
def comesTo (outcome : Except (Raised ε) α) : Coroutine σ ε α := fun state =>
  match outcome with
  | .ok value => .ok value state
  | .error raised => .error raised state

/-- What a call that does not suspend comes to: it cannot be cancelled. -/
def synchronous (outcome : Except ε α) : Except (Raised ε) α := outcome.mapError .error

def fail (exception : ε) : Coroutine σ ε α := EStateM.throw (.error exception)

/-- `try: .. except ..: ..`, for a class of exceptions. -/
def catching (caught : ε → Bool) (body : Coroutine σ ε α) (handler : ε → Coroutine σ ε α) :
    Coroutine σ ε α :=
  handle body fun raised =>
    match raised with
    | .error exception => if caught exception then handler exception else EStateM.throw raised
    | .cancelled => EStateM.throw raised

/-- `except Exception` -/
def catchingAll (body : Coroutine σ ε α) (handler : ε → Coroutine σ ε α) : Coroutine σ ε α :=
  catching (fun _ => true) body handler

/-- `try: .. finally: ..`.  What the clause raises takes the place of what it interrupts. -/
def finishing (body : Coroutine σ ε α) (cleanup : Coroutine σ ε Unit) : Coroutine σ ε α :=
  fun state =>
    match body state with
    | .ok value after => (cleanup >>= fun _ => pure value) after
    | .error raised after => (cleanup >>= fun _ => EStateM.throw raised) after

section Rules

variable {state after : σ} {body : Coroutine σ ε α}

@[simp] theorem comesTo_ok (value : α) :
    (comesTo (.ok value) : Coroutine σ ε α) state = .ok value state := rfl

@[simp] theorem comesTo_error (raised : Raised ε) :
    (comesTo (.error raised) : Coroutine σ ε α) state = .error raised state := rfl

@[simp] theorem synchronous_ok (value : α) : (synchronous (.ok value) : Except (Raised ε) α) =
    .ok value := rfl

@[simp] theorem synchronous_error (exception : ε) :
    (synchronous (.error exception) : Except (Raised ε) α) = .error (.error exception) := rfl

@[simp] theorem fail_apply (exception : ε) :
    (fail exception : Coroutine σ ε α) state = .error (.error exception) state := rfl

theorem catching_of_ok {caught : ε → Bool} {handler : ε → Coroutine σ ε α} {value : α}
    (returned : body state = .ok value after) :
    catching caught body handler state = .ok value after := by
  simp only [catching, handle, returned]

theorem catching_of_cancelled {caught : ε → Bool} {handler : ε → Coroutine σ ε α}
    (cancelled : body state = .error .cancelled after) :
    catching caught body handler state = .error .cancelled after := by
  simp only [catching, handle, cancelled]
  rfl

theorem catching_of_error {caught : ε → Bool} {handler : ε → Coroutine σ ε α} {exception : ε}
    (raised : body state = .error (.error exception) after) (catches : caught exception = true) :
    catching caught body handler state = handler exception after := by
  simp only [catching, handle, raised, catches, if_true]

theorem catchingAll_of_error {handler : ε → Coroutine σ ε α} {exception : ε}
    (raised : body state = .error (.error exception) after) :
    catchingAll body handler state = handler exception after :=
  catching_of_error raised rfl

theorem catchingAll_comesTo_cancelled {handler : ε → Coroutine σ ε α} :
    catchingAll (comesTo (.error .cancelled)) handler state = .error .cancelled state := rfl

theorem catchingAll_comesTo_error {handler : ε → Coroutine σ ε α} {exception : ε} :
    catchingAll (comesTo (.error (.error exception))) handler state = handler exception state := rfl

/-- A handler that ends by raising again leaves what its clean-up left. -/
theorem bind_fail (cleanup : Coroutine σ ε α) (exception : ε) (state : σ) {β : Type} :
    ∃ raised, (cleanup >>= fun _ => (fail exception : Coroutine σ ε β)) state =
      .error raised (finalState (cleanup state)) := by
  cases ended : cleanup state with
  | ok value after => exact ⟨.error exception, bind_of_ok ended⟩
  | error raised after => exact ⟨raised, bind_of_error ended⟩

theorem finalState_then {β : Type} {next : α → Coroutine σ ε β}
    (keeps : ∀ value before, finalState (next value before) = before) :
    finalState ((body >>= next) state) = finalState (body state) := by
  cases ended : body state with
  | ok value after =>
      rw [bind_of_ok ended, keeps]
      rfl
  | error raised after =>
      rw [bind_of_error ended]
      rfl

/-- A `finally` clause runs from where its body ends and has the last word. -/
theorem finalState_finishing (cleanup : Coroutine σ ε Unit) :
    finalState (finishing body cleanup state) = finalState (cleanup (finalState (body state))) := by
  unfold finishing
  cases body state with
  | ok value after => exact finalState_then fun _ _ => rfl
  | error raised after => exact finalState_then fun _ _ => rfl

end Rules

end JVLinkServer.Coroutines
