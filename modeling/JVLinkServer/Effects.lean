import Mathlib

namespace JVLinkServer.Effects

/-! # Effects that end in a value or an exception

A small program logic for `EStateM`.  The state survives a thrown exception, as
it does in a language whose destructors and catch clauses see every write made
before the throw.  Nothing here depends on what the state or the exceptions are.
-/

variable {ε σ α β : Type}

/-- The state in which a run ends, whether it returned or threw. -/
def finalState : EStateM.Result ε σ α → σ
  | .ok _ state => state
  | .error _ state => state

/-- What a run returned, if it did. -/
def returned? : EStateM.Result ε σ α → Option α
  | .ok value _ => some value
  | .error _ _ => none

theorem ok_of_returned {result : EStateM.Result ε σ α} {value : α}
    (returned : returned? result = some value) : result = .ok value (finalState result) := by
  cases result <;> cases returned
  rfl

/-- What holds of the way a run ended. -/
def Ends (post : α → σ → Prop) (thrown : ε → σ → Prop) : EStateM.Result ε σ α → Prop
  | .ok value state => post value state
  | .error exception state => thrown exception state

/-- From every state satisfying `pre`, the action ends as `post` and `thrown` say. -/
def Ensures (pre : σ → Prop) (action : EStateM ε σ α)
    (post : α → σ → Prop) (thrown : ε → σ → Prop) : Prop :=
  ∀ state, pre state → Ends post thrown (action state)

/-- The action preserves a state predicate on both ways out. -/
abbrev Keeps (kept : σ → Prop) (action : EStateM ε σ α) : Prop :=
  Ensures kept action (fun _ => kept) (fun _ => kept)

theorem Ends.mono {result : EStateM.Result ε σ α}
    {post post' : α → σ → Prop} {thrown thrown' : ε → σ → Prop}
    (ends : Ends post thrown result)
    (returned : ∀ value state, post value state → post' value state)
    (raised : ∀ exception state, thrown exception state → thrown' exception state) :
    Ends post' thrown' result := by
  cases result with
  | ok value state => exact returned value state ends
  | error exception state => exact raised exception state ends

theorem Ends.finalState {result : EStateM.Result ε σ α} {kept : σ → Prop}
    (ends : Ends (fun _ => kept) (fun _ => kept) result) : kept (finalState result) := by
  cases result <;> exact ends

theorem Ensures.mono {pre pre' : σ → Prop} {action : EStateM ε σ α}
    {post post' : α → σ → Prop} {thrown thrown' : ε → σ → Prop}
    (ensured : Ensures pre action post thrown) (before : ∀ state, pre' state → pre state)
    (returned : ∀ value state, post value state → post' value state)
    (raised : ∀ exception state, thrown exception state → thrown' exception state) :
    Ensures pre' action post' thrown' :=
  fun state holds => (ensured state (before state holds)).mono returned raised

/-- An exception may be promised less. -/
theorem Ensures.raise {pre : σ → Prop} {action : EStateM ε σ α} {post : α → σ → Prop}
    {thrown thrown' : ε → σ → Prop} (ensured : Ensures pre action post thrown)
    (weaker : ∀ exception state, thrown exception state → thrown' exception state) :
    Ensures pre action post thrown' :=
  ensured.mono (fun _ holds => holds) (fun _ _ holds => holds) weaker

/-- What the precondition says of no state in particular. -/
theorem Ensures.knowing {pre : σ → Prop} {action : EStateM ε σ α} {post : α → σ → Prop}
    {thrown : ε → σ → Prop} (fact : Prop) (known : ∀ state, pre state → fact)
    (ensured : fact → Ensures pre action post thrown) : Ensures pre action post thrown :=
  fun state holds => ensured (known state holds) state holds

theorem Ensures.pure {pre : σ → Prop} {thrown : ε → σ → Prop} {post : α → σ → Prop} {value : α}
    (returned : ∀ state, pre state → post value state) :
    Ensures pre (Pure.pure value : EStateM ε σ α) post thrown :=
  fun state holds => returned state holds

theorem Ensures.throw {pre : σ → Prop} {thrown : ε → σ → Prop} {post : α → σ → Prop}
    {exception : ε} (raised : ∀ state, pre state → thrown exception state) :
    Ensures pre (EStateM.throw exception : EStateM ε σ α) post thrown :=
  fun state holds => raised state holds

theorem bind_of_ok {action : EStateM ε σ α} {next : α → EStateM ε σ β} {before after : σ}
    {value : α} (returned : action before = .ok value after) :
    (action >>= next) before = next value after := by
  change EStateM.bind action next before = _
  simp only [EStateM.bind, returned]

theorem bind_of_error {action : EStateM ε σ α} {next : α → EStateM ε σ β} {before after : σ}
    {exception : ε} (thrown : action before = .error exception after) :
    (action >>= next) before = .error exception after := by
  change EStateM.bind action next before = _
  simp only [EStateM.bind, thrown]

/-- Sequencing: the continuation starts where the first action returned, and an
exception of the first action is an exception of the whole. -/
theorem Ensures.bind {pre : σ → Prop} {action : EStateM ε σ α} {next : α → EStateM ε σ β}
    {middle : α → σ → Prop} {post : β → σ → Prop} {thrown : ε → σ → Prop}
    (first : Ensures pre action middle thrown)
    (rest : ∀ value, Ensures (middle value) (next value) post thrown) :
    Ensures pre (action >>= next) post thrown := by
  intro state holds
  have ended := first state holds
  change Ends post thrown (EStateM.bind action next state)
  unfold EStateM.bind
  cases run : action state with
  | ok value after =>
      rw [run] at ended
      exact rest value after ended
  | error exception after =>
      rw [run] at ended
      exact ended

/-- The same with the intermediate assertion given. -/
theorem Ensures.seq {pre : σ → Prop} {action : EStateM ε σ α} {next : α → EStateM ε σ β}
    (middle : α → σ → Prop) {post : β → σ → Prop} {thrown : ε → σ → Prop}
    (first : Ensures pre action middle thrown)
    (rest : ∀ value, Ensures (middle value) (next value) post thrown) :
    Ensures pre (action >>= next) post thrown :=
  Ensures.bind first rest

theorem Ensures.ite {condition : Prop} [Decidable condition] {pre : σ → Prop}
    {yes no : EStateM ε σ α} {post : α → σ → Prop} {thrown : ε → σ → Prop}
    (whenYes : condition → Ensures pre yes post thrown)
    (whenNo : ¬ condition → Ensures pre no post thrown) :
    Ensures pre (if condition then yes else no) post thrown := by
  split
  · exact whenYes ‹_›
  · exact whenNo ‹_›

/-- Read the state.  The continuation may use that it has not changed. -/
def read : EStateM ε σ σ := fun state => .ok state state

/-- Update the state. -/
def update (change : σ → σ) : EStateM ε σ Unit := fun state => .ok () (change state)

theorem read_bind {next : σ → EStateM ε σ β} {state : σ} :
    (Effects.read >>= next) state = next state state := rfl

theorem Ensures.read {pre : σ → Prop} {thrown : ε → σ → Prop} :
    Ensures pre (Effects.read : EStateM ε σ σ) (fun value state => value = state ∧ pre state)
      thrown :=
  fun _ holds => ⟨rfl, holds⟩

/-- A read of which only the value is used. -/
theorem Ensures.peek {pre : σ → Prop} {thrown : ε → σ → Prop} :
    Ensures pre (Effects.read : EStateM ε σ σ) (fun _ => pre) thrown :=
  fun _ holds => holds

theorem Ensures.update {pre : σ → Prop} {post : Unit → σ → Prop} {thrown : ε → σ → Prop}
    {change : σ → σ} (changed : ∀ state, pre state → post () (change state)) :
    Ensures pre (Effects.update change : EStateM ε σ Unit) post thrown :=
  fun state holds => changed state holds

/-- Run a handler on an exception.  The state is the one at the throw. -/
def handle (action : EStateM ε σ α) (handler : ε → EStateM ε σ α) : EStateM ε σ α :=
  fun state =>
    match action state with
    | .ok value after => .ok value after
    | .error exception after => handler exception after

theorem Ensures.handle {pre : σ → Prop} {action : EStateM ε σ α} {handler : ε → EStateM ε σ α}
    {post : α → σ → Prop} {thrown thrown' : ε → σ → Prop}
    (body : Ensures pre action post thrown)
    (handled : ∀ exception, Ensures (thrown exception) (handler exception) post thrown') :
    Ensures pre (Effects.handle action handler) post thrown' := by
  intro state holds
  have ended := body state holds
  unfold Effects.handle
  cases run : action state with
  | ok value after =>
      rw [run] at ended
      exact ended
  | error exception after =>
      rw [run] at ended
      exact handled exception after ended

/-- A handler that needs to know nothing of the exception. -/
theorem Ensures.catchAny {pre : σ → Prop} {action : EStateM ε σ α} {handler : ε → EStateM ε σ α}
    {post : α → σ → Prop} {thrown : ε → σ → Prop}
    (body : Ensures pre action post (fun _ _ => True))
    (handled : ∀ exception, Ensures (fun _ => True) (handler exception) post thrown) :
    Ensures pre (Effects.handle action handler) post thrown :=
  Ensures.handle body handled

theorem Ensures.vacuous {action : EStateM ε σ α} {post : α → σ → Prop} {thrown : ε → σ → Prop} :
    Ensures (fun _ => False) action post thrown :=
  fun _ impossible => impossible.elim

/-- Run a state change on every way out that `unwinds` allows, as a destructor
does.  Exceptions for which `unwinds` is false leave at once. -/
def afterwards (unwinds : ε → Bool) (action : EStateM ε σ α) (destructor : σ → σ) :
    EStateM ε σ α :=
  fun state =>
    match action state with
    | .ok value after => .ok value (destructor after)
    | .error exception after =>
        .error exception (if unwinds exception then destructor after else after)

theorem Ensures.afterwards {pre : σ → Prop} {action : EStateM ε σ α} {unwinds : ε → Bool}
    {destructor : σ → σ} {post : α → σ → Prop} {thrown : ε → σ → Prop}
    {post' : α → σ → Prop} {thrown' : ε → σ → Prop}
    (body : Ensures pre action post thrown)
    (returned : ∀ value state, post value state → post' value (destructor state))
    (raised : ∀ exception state, thrown exception state →
      thrown' exception (if unwinds exception then destructor state else state)) :
    Ensures pre (Effects.afterwards unwinds action destructor) post' thrown' := by
  intro state holds
  have ended := body state holds
  unfold Effects.afterwards
  cases run : action state with
  | ok value after =>
      rw [run] at ended
      exact returned value after ended
  | error exception after =>
      rw [run] at ended
      exact raised exception after ended

/-- Run an action for what it changes, whether it returns or throws. -/
def attempt (action : EStateM ε σ α) : EStateM ε σ Unit :=
  fun state => .ok () (finalState (action state))

theorem Ensures.attempt {pre post : σ → Prop} {thrown : ε → σ → Prop} {action : EStateM ε σ α}
    (body : Ensures pre action (fun _ => post) (fun _ => post)) :
    Ensures pre (Effects.attempt action) (fun _ => post) thrown :=
  fun state holds => (body state holds).finalState

/-! ## Preserved predicates -/

theorem Keeps.pure {kept : σ → Prop} (value : α) :
    Keeps kept (Pure.pure value : EStateM ε σ α) :=
  fun _ holds => holds

theorem Keeps.throw {kept : σ → Prop} (exception : ε) :
    Keeps kept (EStateM.throw exception : EStateM ε σ α) :=
  fun _ holds => holds

theorem Keeps.update {kept : σ → Prop} {change : σ → σ}
    (changed : ∀ state, kept state → kept (change state)) :
    Keeps kept (Effects.update change : EStateM ε σ Unit) :=
  fun state holds => changed state holds

theorem Keeps.bind {kept : σ → Prop} {action : EStateM ε σ α} {next : α → EStateM ε σ β}
    (first : Keeps kept action) (rest : ∀ value, Keeps kept (next value)) :
    Keeps kept (action >>= next) :=
  Ensures.bind first rest

theorem Keeps.ite {condition : Prop} [Decidable condition] {kept : σ → Prop}
    {yes no : EStateM ε σ α} (whenYes : Keeps kept yes) (whenNo : Keeps kept no) :
    Keeps kept (if condition then yes else no) :=
  Ensures.ite (fun _ => whenYes) (fun _ => whenNo)

theorem Keeps.handle {kept : σ → Prop} {action : EStateM ε σ α} {handler : ε → EStateM ε σ α}
    (body : Keeps kept action) (handled : ∀ exception, Keeps kept (handler exception)) :
    Keeps kept (Effects.handle action handler) :=
  Ensures.handle body handled

theorem Keeps.afterwards {kept : σ → Prop} {action : EStateM ε σ α} {unwinds : ε → Bool}
    {destructor : σ → σ} (body : Keeps kept action)
    (destroyed : ∀ state, kept state → kept (destructor state)) :
    Keeps kept (Effects.afterwards unwinds action destructor) :=
  Ensures.afterwards body (fun _ => destroyed) (fun exception state holds => by
    cases unwinds exception with
    | false => exact holds
    | true => exact destroyed state holds)

end JVLinkServer.Effects
