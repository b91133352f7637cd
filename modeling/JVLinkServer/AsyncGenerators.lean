import Mathlib

namespace JVLinkServer.AsyncGenerators

/-! # Asynchronous generators

The iteration protocol of asynchronous generators as a language with `yield` and
`finally` has it.  Closing a generator that was never started does not run its body, and a
loop over an iterator does not close it.  No call waits for the event loop, which may close
a generator later that nothing refers to any more.
-/

variable {σ τ ε α β : Type}

/-- How a call of `anext` ends. -/
inductive Pulled (ε α : Type)
  | yields (value : α)
  | ends
  | raises (exception : ε)
  deriving DecidableEq, Repr

namespace Pulled

def isYield : Pulled ε α → Bool
  | .yields _ => true
  | .ends | .raises _ => false

def exception? : Pulled ε α → Option ε
  | .raises exception => some exception
  | .yields _ | .ends => none

end Pulled

/-- An asynchronous iterator with the state `σ`. -/
structure AsyncIterator (σ ε α : Type) where
  anext : σ → Pulled ε α × σ
  aclose : σ → σ

namespace AsyncIterator

/-- The state after some calls of `anext`, whatever they gave. -/
def pull (iterator : AsyncIterator σ ε α) : (count : Nat) → σ → σ
  | 0, state => state
  | count + 1, state => iterator.pull count (iterator.anext state).2

/-- The values of some calls of `anext`. -/
def values (iterator : AsyncIterator σ ε α) : (count : Nat) → σ → List α
  | 0, _ => []
  | count + 1, state =>
      match iterator.anext state with
      | (.yields value, after) => value :: iterator.values count after
      | (.ends, after) | (.raises _, after) => iterator.values count after

/-- The exception that some calls of `anext` come to. -/
def raised (iterator : AsyncIterator σ ε α) : (count : Nat) → σ → Option ε
  | 0, _ => none
  | count + 1, state =>
      match iterator.anext state with
      | (.raises exception, _) => some exception
      | (.yields _, after) | (.ends, after) => iterator.raised count after

/-- The state when a consumer stops after some calls of `anext` and closes. -/
def stopAfter (iterator : AsyncIterator σ ε α) (count : Nat) (state : σ) : σ :=
  iterator.aclose (iterator.pull count state)

/-- The same iterator beside a state it does not use. -/
def beside (iterator : AsyncIterator σ ε α) : AsyncIterator (τ × σ) ε α where
  anext state := ((iterator.anext state.2).1, (state.1, (iterator.anext state.2).2))
  aclose state := (state.1, iterator.aclose state.2)

/-- Once it has ended, calls do nothing any more. -/
def Settles (iterator : AsyncIterator σ ε α) : Prop :=
  ∀ state, (iterator.anext state).1.isYield = false →
    iterator.anext (iterator.anext state).2 = (.ends, (iterator.anext state).2) ∧
      iterator.aclose (iterator.anext state).2 = (iterator.anext state).2

section Runs

variable (iterator : AsyncIterator σ ε α) (state : σ)

theorem pull_add (first second : Nat) :
    iterator.pull (first + second) state = iterator.pull second (iterator.pull first state) := by
  induction first generalizing state with
  | zero => simp [pull]
  | succ first ih => rw [Nat.succ_add, pull, pull, ih]

theorem pull_succ_last (count : Nat) :
    iterator.pull (count + 1) state = (iterator.anext (iterator.pull count state)).2 := by
  rw [pull_add]
  rfl

theorem values_add (first second : Nat) :
    iterator.values (first + second) state =
      iterator.values first state ++ iterator.values second (iterator.pull first state) := by
  induction first generalizing state with
  | zero => simp [pull, values]
  | succ first ih =>
      rw [Nat.succ_add, pull, values, values]
      cases iterator.anext state with
      | mk pulled after => cases pulled <;> simp [ih]

theorem raised_add (first second : Nat) :
    iterator.raised (first + second) state =
      (iterator.raised first state).or (iterator.raised second (iterator.pull first state)) := by
  induction first generalizing state with
  | zero => simp [pull, raised]
  | succ first ih =>
      rw [Nat.succ_add, pull, raised, raised]
      cases iterator.anext state with
      | mk pulled after => cases pulled <;> simp [ih]

variable {iterator state} {other : σ} (same : iterator.anext state = iterator.anext other)
  (count : Nat)
include same

theorem pull_succ_congr : iterator.pull (count + 1) state = iterator.pull (count + 1) other := by
  rw [pull, pull, same]

theorem values_succ_congr :
    iterator.values (count + 1) state = iterator.values (count + 1) other := by
  rw [values, values, same]

theorem raised_succ_congr :
    iterator.raised (count + 1) state = iterator.raised (count + 1) other := by
  rw [raised, raised, same]

end Runs

section Embedded

variable {outer : AsyncIterator τ ε α} {inner : AsyncIterator σ ε α} (embed : σ → τ)
  (anext : ∀ state, outer.anext (embed state) = ((inner.anext state).1, embed (inner.anext state).2))
include anext

theorem pull_embed (count : Nat) (state : σ) :
    outer.pull count (embed state) = embed (inner.pull count state) := by
  induction count generalizing state with
  | zero => rfl
  | succ count ih => rw [pull, pull, anext, ih]

theorem raised_embed (count : Nat) (state : σ) :
    outer.raised count (embed state) = inner.raised count state := by
  induction count generalizing state with
  | zero => rfl
  | succ count ih =>
      rw [raised, raised, anext]
      cases inner.anext state with
      | mk pulled after => cases pulled <;> simp [ih]

theorem values_embed (count : Nat) (state : σ) :
    outer.values count (embed state) = inner.values count state := by
  induction count generalizing state with
  | zero => rfl
  | succ count ih =>
      rw [values, values, anext]
      cases inner.anext state with
      | mk pulled after => cases pulled <;> simp [ih]

end Embedded

section Settled

variable {iterator : AsyncIterator σ ε α} {state : σ}
  (ended : iterator.anext state = (.ends, state)) (count : Nat)
include ended

theorem pull_ended : iterator.pull count state = state := by
  induction count with
  | zero => rfl
  | succ count ih => rw [pull, ended, ih]

theorem values_ended : iterator.values count state = [] := by
  induction count with
  | zero => rfl
  | succ count ih => simpa [values, ended] using ih

theorem raised_ended : iterator.raised count state = none := by
  induction count with
  | zero => rfl
  | succ count ih => simpa [raised, ended] using ih

end Settled

/-! ## Simulation -/

inductive Call
  | anext
  | aclose
  deriving DecidableEq, Repr

/-- The state after some calls. -/
def after (iterator : AsyncIterator σ ε α) : List Call → σ → σ
  | [], state => state
  | .anext :: calls, state => iterator.after calls (iterator.anext state).2
  | .aclose :: calls, state => iterator.after calls (iterator.aclose state)

/-- Related states answer every call alike and stay related. -/
structure Simulates (related : σ → τ → Prop) (left : AsyncIterator σ ε α)
    (right : AsyncIterator τ ε α) : Prop where
  anext : ∀ {state other}, related state other →
    (left.anext state).1 = (right.anext other).1 ∧
      related (left.anext state).2 (right.anext other).2
  aclose : ∀ {state other}, related state other → related (left.aclose state) (right.aclose other)

theorem Simulates.after {related : σ → τ → Prop} {left : AsyncIterator σ ε α}
    {right : AsyncIterator τ ε α} (simulates : Simulates related left right) (calls : List Call)
    {state : σ} {other : τ} (alike : related state other) :
    related (left.after calls state) (right.after calls other) := by
  induction calls generalizing state other with
  | nil => exact alike
  | cons call calls ih =>
      cases call with
      | anext => exact ih (simulates.anext alike).2
      | aclose => exact ih (simulates.aclose alike)

/-- A property that every call keeps. -/
theorem after_keeps {iterator : AsyncIterator σ ε α} {kept : σ → Prop}
    (anext : ∀ state, kept state → kept (iterator.anext state).2)
    (aclose : ∀ state, kept state → kept (iterator.aclose state)) (calls : List Call) {state : σ}
    (holds : kept state) : kept (iterator.after calls state) := by
  induction calls generalizing state with
  | nil => exact holds
  | cons call calls ih =>
      cases call with
      | anext => exact ih (anext state holds)
      | aclose => exact ih (aclose state holds)

theorem Simulates.beside {related : σ → τ → Prop} {left : AsyncIterator σ ε α}
    {right : AsyncIterator τ ε α} (simulates : Simulates related left right) {ρ : Type} :
    Simulates (fun state other => state.1 = other.1 ∧ related state.2 other.2)
      (left.beside (τ := ρ)) right.beside where
  anext := fun alike => ⟨(simulates.anext alike.2).1, alike.1, (simulates.anext alike.2).2⟩
  aclose := fun alike => ⟨alike.1, simulates.aclose alike.2⟩

end AsyncIterator

/-! ## Generators -/

/-- Where a generator is in its body. -/
inductive Frame
  | created
  | suspended
  | finished
  deriving DecidableEq, Repr

/-- What a body does: from its beginning or from a `yield` to the next `yield` or the
end, and when it is closed at a `yield`. -/
structure Body (σ ε α : Type) where
  start : σ → Pulled ε α × σ
  resume : σ → Pulled ε α × σ
  exit : σ → σ

/-- The frame that a call leaves. -/
def settle : Pulled ε α × σ → Pulled ε α × (Frame × σ)
  | (.yields value, state) => (.yields value, (.suspended, state))
  | (.ends, state) => (.ends, (.finished, state))
  | (.raises exception, state) => (.raises exception, (.finished, state))

def generator (body : Body σ ε α) : AsyncIterator (Frame × σ) ε α where
  anext state :=
    match state.1 with
    | .created => settle (body.start state.2)
    | .suspended => settle (body.resume state.2)
    | .finished => (.ends, state)
  aclose state :=
    match state.1 with
    | .suspended => (.finished, body.exit state.2)
    | .created | .finished => (.finished, state.2)

/-- A `finally` clause: it runs on every way out but a `yield`. -/
def finallyDo (cleanup : σ → σ) : Pulled ε α × σ → Pulled ε α × σ
  | (.yields value, state) => (.yields value, state)
  | (.ends, state) => (.ends, cleanup state)
  | (.raises exception, state) => (.raises exception, cleanup state)

/-- `yield convert(item)` for an item of the loop. -/
def yieldConverted (convert : α → Except ε β) : Pulled ε α → Pulled ε β
  | .yields item =>
      match convert item with
      | .ok value => .yields value
      | .error exception => .raises exception
  | .ends => .ends
  | .raises exception => .raises exception

/-- `try: async for item in inner: yield convert(item); finally: await inner.aclose()` -/
def forwarding (convert : α → Except ε β) (inner : AsyncIterator σ ε α) :
    AsyncIterator (Frame × σ) ε β :=
  let step (state : σ) : Pulled ε β × σ :=
    finallyDo inner.aclose
      (yieldConverted convert (inner.anext state).1, (inner.anext state).2)
  generator { start := step, resume := step, exit := inner.aclose }

section Generator

variable {body : Body σ ε α} {state : σ}

@[simp] theorem generator_anext_created :
    (generator body).anext (.created, state) = settle (body.start state) := rfl

@[simp] theorem generator_anext_suspended :
    (generator body).anext (.suspended, state) = settle (body.resume state) := rfl

@[simp] theorem generator_anext_finished :
    (generator body).anext (.finished, state) = (.ends, (.finished, state)) := rfl

@[simp] theorem generator_aclose_created :
    (generator body).aclose (.created, state) = (.finished, state) := rfl

@[simp] theorem generator_aclose_suspended :
    (generator body).aclose (.suspended, state) = (.finished, body.exit state) := rfl

@[simp] theorem generator_aclose_finished :
    (generator body).aclose (.finished, state) = (.finished, state) := rfl

theorem settle_stopped {left : Pulled ε α × σ} (stopped : (settle left).1.isYield = false) :
    (settle left).2 = (.finished, left.2) := by
  match left with
  | (.yields value, state) => cases stopped
  | (.ends, state) => rfl
  | (.raises exception, state) => rfl

theorem generator_settles : (generator body).Settles := by
  rintro ⟨frame, state⟩ stopped
  cases frame with
  | finished => exact ⟨rfl, rfl⟩
  | created =>
      rw [generator_anext_created] at stopped ⊢
      rw [settle_stopped stopped]
      exact ⟨rfl, rfl⟩
  | suspended =>
      rw [generator_anext_suspended] at stopped ⊢
      rw [settle_stopped stopped]
      exact ⟨rfl, rfl⟩

theorem stopAfter_finished (count : Nat) :
    (generator body).stopAfter count (.finished, state) = (.finished, state) := by
  rw [AsyncIterator.stopAfter, AsyncIterator.pull_ended generator_anext_finished,
    generator_aclose_finished]

section Alike

variable (going done : σ → τ → Prop)

/-- Bodies that came to the same: states that are done need not be related as those
that are not. -/
def Stepped (left : Pulled ε α × σ) (right : Pulled ε α × τ) : Prop :=
  left.1 = right.1 ∧ if left.1.isYield then going left.2 right.2 else done left.2 right.2

def Framed (state : Frame × σ) (other : Frame × τ) : Prop :=
  state.1 = other.1 ∧
    if state.1 = .finished then done state.2 other.2 else going state.2 other.2

variable {going done}

theorem Stepped.settle {left : Pulled ε α × σ} {right : Pulled ε α × τ}
    (stepped : Stepped going done left right) :
    (settle left).1 = (settle right).1 ∧ Framed going done (settle left).2 (settle right).2 := by
  obtain ⟨pulled, state⟩ := left
  obtain ⟨pulled', other⟩ := right
  obtain ⟨rfl, alike⟩ := stepped
  cases pulled <;> exact ⟨rfl, rfl, alike⟩

theorem Framed.of_live {frame : Frame} {state : σ} {other : τ}
    (framed : Framed going done (frame, state) (frame, other)) (live : frame ≠ .finished) :
    going state other := by
  simpa [Framed, live] using framed

/-- Bodies that start, go on and are closed alike make generators that behave alike. -/
theorem generator_simulates {left : Body σ ε α} {right : Body τ ε α}
    (start : ∀ {state other}, going state other →
      Stepped going done (left.start state) (right.start other))
    (resume : ∀ {state other}, going state other →
      Stepped going done (left.resume state) (right.resume other))
    (exit : ∀ {state other}, going state other → done (left.exit state) (right.exit other))
    (unstarted : ∀ {state other}, going state other → done state other) :
    AsyncIterator.Simulates (Framed going done) (generator left) (generator right) where
  anext := by
    intro ⟨frame, state⟩ ⟨_, other⟩ framed
    obtain rfl : frame = _ := framed.1
    cases frame with
    | finished => exact ⟨rfl, framed⟩
    | created => exact (start (framed.of_live (by simp))).settle
    | suspended => exact (resume (framed.of_live (by simp))).settle
  aclose := by
    intro ⟨frame, state⟩ ⟨_, other⟩ framed
    obtain rfl : frame = _ := framed.1
    cases frame with
    | finished => exact framed
    | created => exact ⟨rfl, unstarted (framed.of_live (by simp))⟩
    | suspended => exact ⟨rfl, exit (framed.of_live (by simp))⟩

end Alike

/-- After the call that ends a generator nothing changes. -/
theorem generator_stopped {before : Frame × σ} {pulled : Pulled ε α}
    (called : (generator body).anext before = (pulled, (.finished, state)))
    (stops : pulled.isYield = false) (more : Nat) :
    (generator body).pull (more + 1) before = (.finished, state) ∧
      (generator body).values (more + 1) before = [] ∧
      (generator body).raised (more + 1) before = pulled.exception? := by
  have ended : (generator body).anext (.finished, state) = (.ends, (.finished, state)) := rfl
  rw [AsyncIterator.pull, AsyncIterator.values, AsyncIterator.raised, called]
  cases pulled with
  | yields value => cases stops
  | ends =>
      exact ⟨AsyncIterator.pull_ended ended more, AsyncIterator.values_ended ended more,
        AsyncIterator.raised_ended ended more⟩
  | raises exception =>
      exact ⟨AsyncIterator.pull_ended ended more, AsyncIterator.values_ended ended more, rfl⟩

end Generator

/-! ## Forwarding -/

section Forwarding

variable {convert : α → Except ε β} {inner : AsyncIterator σ ε α} {frame : Frame} {state : σ}

/-- A generator that is not finished runs the loop of its body. -/
theorem forwarding_anext (live : frame ≠ .finished) :
    (forwarding convert inner).anext (frame, state) =
      settle (finallyDo inner.aclose
        (yieldConverted convert (inner.anext state).1, (inner.anext state).2)) := by
  cases frame with
  | finished => exact absurd rfl live
  | created => rfl
  | suspended => rfl

variable (convert inner) in
/-- The calls of the inner iterator that some calls of a live forwarding one make. -/
def forwardedPulls : (count : Nat) → σ → Nat
  | 0, _ => 0
  | count + 1, state =>
      if (yieldConverted convert (inner.anext state).1).isYield then
        forwardedPulls count (inner.anext state).2 + 1
      else 1

theorem settle_yield {pulled : Pulled ε α} (yields : pulled.isYield = true)
    (cleanup : σ → σ) :
    (settle (finallyDo cleanup (pulled, state))).2 = (.suspended, state) := by
  cases pulled with
  | yields value => rfl
  | _ => cases yields

theorem settle_stop {pulled : Pulled ε α} (stops : ¬ pulled.isYield = true)
    (cleanup : σ → σ) :
    (settle (finallyDo cleanup (pulled, state))).2 = (.finished, cleanup state) := by
  cases pulled with
  | yields value => exact absurd rfl stops
  | _ => rfl

/-- Closing a forwarding generator that was started closes the inner iterator. -/
theorem stopAfter_forwarding (live : frame ≠ .finished) (count : Nat)
    (started : frame = .suspended ∨ 0 < count) :
    (forwarding convert inner).stopAfter count (frame, state) =
      (.finished, inner.stopAfter (forwardedPulls convert inner count state) state) := by
  induction count generalizing frame state with
  | zero =>
      obtain rfl : frame = .suspended := by simpa using started
      rfl
  | succ count ih =>
      rw [AsyncIterator.stopAfter, AsyncIterator.pull, forwarding_anext live, forwardedPulls,
        ← AsyncIterator.stopAfter]
      by_cases goesOn : (yieldConverted convert (inner.anext state).1).isYield = true
      · rw [settle_yield goesOn, if_pos goesOn, ih (by simp) (.inl rfl)]
        rfl
      · rw [settle_stop goesOn, if_neg goesOn]
        exact stopAfter_finished count

/-- The calls of the inner iterator up to the first value that fails to convert, if it
comes in time. -/
def pullsUntil (fails : α → Bool) (values : List α) (count : Nat) : Nat :=
  match values.findIdx? fails with
  | some index => index + 1
  | none => count

theorem pullsUntil_pos {fails : α → Bool} {values : List α} {count : Nat} (calls : 0 < count) :
    0 < pullsUntil fails values count := by
  unfold pullsUntil
  cases values.findIdx? fails with
  | none => exact calls
  | some index => exact Nat.succ_pos index

theorem pullsUntil_total (values : List α) (count : Nat) :
    pullsUntil (fun _ => false) values count = count := by
  have never : values.findIdx? (fun _ => false) = none :=
    List.findIdx?_eq_none_iff.2 fun _ _ => rfl
  rw [pullsUntil, never]

/-- A conversion that raises. -/
def Raises (convert : α → Except ε β) (value : α) : Bool :=
  match convert value with
  | .ok _ => false
  | .error _ => true

/-- Further calls after the one that ended change nothing. -/
theorem stopAfter_stopped (settles : inner.Settles) {pulled : Pulled ε α} {after : σ}
    (called : inner.anext state = (pulled, after)) (stops : pulled.isYield = false) {count : Nat} :
    inner.stopAfter 1 state =
      inner.stopAfter (pullsUntil (Raises convert) (inner.values count after) (count + 1))
        state := by
  have settled := settles state
  rw [called] at settled
  have ended := (settled stops).1
  rw [AsyncIterator.values_ended ended]
  simp only [pullsUntil, List.findIdx?_nil, AsyncIterator.stopAfter, AsyncIterator.pull, called,
    AsyncIterator.pull_ended ended]

theorem stopAfter_forwardedPulls (settles : inner.Settles) (count : Nat) :
    inner.stopAfter (forwardedPulls convert inner count state) state =
      inner.stopAfter (pullsUntil (Raises convert) (inner.values count state) count) state := by
  induction count generalizing state with
  | zero => rfl
  | succ count ih =>
      rw [forwardedPulls, AsyncIterator.values]
      cases called : inner.anext state with
      | mk pulled after =>
          cases pulled with
          | yields value =>
              have later (more : Nat) : inner.stopAfter (more + 1) state =
                  inner.stopAfter more after := by
                rw [AsyncIterator.stopAfter, AsyncIterator.pull, called]
                rfl
              cases converted : convert value with
              | error exception =>
                  have raises : Raises convert value = true := by simp [Raises, converted]
                  simp [yieldConverted, converted, Pulled.isYield, pullsUntil, raises,
                    List.findIdx?_cons]
              | ok result =>
                  have passes : Raises convert value = false := by simp [Raises, converted]
                  have rest : inner.stopAfter (forwardedPulls convert inner count after) after =
                      _ := ih
                  simp only [yieldConverted, converted, Pulled.isYield, if_true, later, rest]
                  unfold pullsUntil
                  rw [List.findIdx?_cons, passes]
                  cases (inner.values count after).findIdx? (Raises convert) with
                  | none => exact (later count).symm
                  | some index => exact (later (index + 1)).symm
          | ends => exact stopAfter_stopped settles called rfl
          | raises exception => exact stopAfter_stopped settles called rfl

/-- What comes out, and where the inner iterator is, when every conversion succeeds. -/
theorem forwarding_runs (settles : inner.Settles) {result : α → β}
    (succeeds : ∀ value, convert value = .ok (result value)) (live : frame ≠ .finished)
    (count : Nat) :
    (forwarding convert inner).values count (frame, state) =
        (inner.values count state).map result ∧
      (forwarding convert inner).raised count (frame, state) = inner.raised count state ∧
      ((forwarding convert inner).pull count (frame, state)).2 = inner.pull count state := by
  induction count generalizing frame state with
  | zero => exact ⟨rfl, rfl, rfl⟩
  | succ count ih =>
      simp only [AsyncIterator.values, AsyncIterator.raised, AsyncIterator.pull,
        forwarding_anext live]
      have settled := settles state
      cases called : inner.anext state with
      | mk pulled after =>
          rw [called] at settled
          have spent (cleaned : σ) : (forwarding convert inner).anext (.finished, cleaned) =
            (.ends, (.finished, cleaned)) := rfl
          cases pulled with
          | yields value =>
              have suspended : Frame.suspended ≠ .finished := by simp
              simp [yieldConverted, succeeds, finallyDo, settle, ih suspended]
          | ends =>
              obtain ⟨ended, closed⟩ := settled rfl
              simp [yieldConverted, finallyDo, settle, closed, AsyncIterator.pull_ended ended,
                AsyncIterator.values_ended ended, AsyncIterator.raised_ended ended,
                AsyncIterator.pull_ended (spent after), AsyncIterator.values_ended (spent after),
                AsyncIterator.raised_ended (spent after)]
          | raises exception =>
              obtain ⟨ended, closed⟩ := settled rfl
              simp [yieldConverted, finallyDo, settle, closed, AsyncIterator.pull_ended ended,
                AsyncIterator.values_ended ended, AsyncIterator.pull_ended (spent after),
                AsyncIterator.values_ended (spent after)]

/-- What comes out when every value that is read can be converted. -/
theorem forwarding_converts (settles : inner.Settles) (live : frame ≠ .finished) (count : Nat)
    (succeeds : ∀ value ∈ inner.values count state, ∃ result, convert value = .ok result) :
    List.Forall₂ (fun value result => convert value = .ok result) (inner.values count state)
        ((forwarding convert inner).values count (frame, state)) ∧
      (forwarding convert inner).raised count (frame, state) = inner.raised count state := by
  induction count generalizing frame state with
  | zero => exact ⟨.nil, rfl⟩
  | succ count ih =>
      have settled := settles state
      have spent (cleaned : σ) : (forwarding convert inner).anext (.finished, cleaned) =
        (.ends, (.finished, cleaned)) := rfl
      rw [AsyncIterator.values] at succeeds
      simp only [AsyncIterator.values, AsyncIterator.raised, forwarding_anext live]
      cases called : inner.anext state with
      | mk pulled after =>
          rw [called] at settled succeeds
          cases pulled with
          | yields value =>
              rw [List.forall_mem_cons] at succeeds
              obtain ⟨⟨result, converted⟩, later⟩ := succeeds
              have suspended : Frame.suspended ≠ .finished := by simp
              obtain ⟨rest, raised⟩ := ih suspended later
              simp only [yieldConverted, converted, finallyDo, settle]
              exact ⟨.cons converted rest, raised⟩
          | ends =>
              obtain ⟨ended, closed⟩ := settled rfl
              simp [yieldConverted, finallyDo, settle, closed, AsyncIterator.values_ended ended,
                AsyncIterator.raised_ended ended, AsyncIterator.values_ended (spent after),
                AsyncIterator.raised_ended (spent after)]
          | raises exception =>
              obtain ⟨ended, closed⟩ := settled rfl
              simp [yieldConverted, finallyDo, settle, closed, AsyncIterator.values_ended ended,
                AsyncIterator.values_ended (spent after)]

end Forwarding

end JVLinkServer.AsyncGenerators
