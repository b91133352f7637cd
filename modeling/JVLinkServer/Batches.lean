import JVLinkServer.AsyncGenerators

namespace JVLinkServer.AsyncGenerators

/-! # Batches of items

A generator that gathers the items of an iterator and yields them as lists of one size.  No
`finally` clause guards its loop.
-/

variable {σ ε α : Type}

/-- The turns of the loop while the batch has room.  What there is at the end of the iterator
is yielded, and the generator has nothing to go on with. -/
def gather (inner : AsyncIterator σ ε α) :
    (room : Nat) → List α → σ → Pulled ε (List α) × (Bool × σ)
  | 0, batch, state => (.yields batch, (false, state))
  | room + 1, batch, state =>
      match inner.anext state with
      | (.yields item, after) => gather inner room (batch ++ [item]) after
      | (.ends, after) => (if batch.isEmpty then .ends else .yields batch, (true, after))
      | (.raises exception, after) => (.raises exception, (true, after))

/-- The generator, which may refuse its arguments when it is started. -/
def batching (refused : Option ε) (size : Nat) (inner : AsyncIterator σ ε α) :
    AsyncIterator (Frame × (Bool × σ)) ε (List α) :=
  generator {
    start := fun state =>
      match refused with
      | some exception => (.raises exception, state)
      | none => gather inner size [] state.2
    resume := fun state => if state.1 then (.ends, state) else gather inner size [] state.2
    exit := id }

/-- The batches are the items in their order.  Only the last batch may be smaller than the
others, and after an exception it is lost. -/
structure Batched (size : Nat) (items : List α) (failed : Bool) (batches : List (List α)) :
    Prop where
  joined : ∃ lost, batches.flatten ++ lost = items ∧ lost.length < size ∧
    (failed = false → lost = [])
  full : ∀ batch ∈ batches.dropLast, batch.length = size
  sized : ∀ batch ∈ batches, batch ≠ [] ∧ batch.length ≤ size
  whole : failed = true → ∀ batch ∈ batches, batch.length = size

section Gathering

variable {inner : AsyncIterator σ ε α} {state : σ}

theorem length_values_le (inner : AsyncIterator σ ε α) (count : Nat) (state : σ) :
    (inner.values count state).length ≤ count := by
  induction count generalizing state with
  | zero => exact Nat.le_refl 0
  | succ count ih =>
      have later := ih (inner.anext state).2
      rw [AsyncIterator.values]
      cases called : inner.anext state with
      | mk pulled after =>
          rw [called] at later
          cases pulled with
          | yields item => exact Nat.succ_le_succ later
          | ends | raises exception => exact Nat.le_succ_of_le later

theorem gather_full {room : Nat} (batch : List α)
    (full : (inner.values room state).length = room) :
    gather inner room batch state =
        (.yields (batch ++ inner.values room state), (false, inner.pull room state)) ∧
      inner.raised room state = none := by
  induction room generalizing batch state with
  | zero => exact ⟨by simp [gather, AsyncIterator.values, AsyncIterator.pull], rfl⟩
  | succ room ih =>
      have later := length_values_le inner room (inner.anext state).2
      rw [AsyncIterator.values] at full
      rw [gather, AsyncIterator.values, AsyncIterator.raised, AsyncIterator.pull]
      cases called : inner.anext state with
      | mk pulled after =>
          rw [called] at full later
          cases pulled with
          | yields item =>
              obtain ⟨gathered, calm⟩ := ih (batch ++ [item]) (by simpa using full)
              refine ⟨?_, calm⟩
              change gather inner room (batch ++ [item]) after = _
              rw [gathered, List.append_assoc]
              rfl
          | ends | raises exception =>
              change (inner.values room after).length = room + 1 at full
              change (inner.values room after).length ≤ room at later
              omega

/-- The iterator stops before the batch is full. -/
theorem gather_short (settles : inner.Settles) {room : Nat} (batch : List α)
    (short : (inner.values room state).length < room) :
    gather inner room batch state =
        (match inner.raised room state with
          | some exception => .raises exception
          | none =>
              if (batch ++ inner.values room state).isEmpty then .ends
              else .yields (batch ++ inner.values room state),
          (true, inner.pull room state)) ∧
      inner.anext (inner.pull room state) = (.ends, inner.pull room state) := by
  induction room generalizing batch state with
  | zero => cases short
  | succ room ih =>
      have settled := settles state
      rw [AsyncIterator.values] at short
      rw [gather, AsyncIterator.values, AsyncIterator.raised, AsyncIterator.pull]
      cases called : inner.anext state with
      | mk pulled after =>
          rw [called] at short settled
          cases pulled with
          | yields item =>
              obtain ⟨gathered, ended⟩ := ih (batch ++ [item]) (by simpa using short)
              refine ⟨?_, ended⟩
              change gather inner room (batch ++ [item]) after = _
              rw [gathered, List.append_assoc]
              rfl
          | ends =>
              have ended := (settled rfl).1
              simp [AsyncIterator.values_ended ended, AsyncIterator.raised_ended ended,
                AsyncIterator.pull_ended ended, ended]
          | raises exception =>
              have ended := (settled rfl).1
              simp [AsyncIterator.pull_ended ended, ended]

end Gathering

/-! ## Runs -/

section Batched

variable {size : Nat} {items batch : List α} {batches : List (List α)} {failed : Bool}

theorem Batched.nil (positive : 0 < size) : Batched size ([] : List α) failed [] where
  joined := ⟨[], rfl, positive, fun _ => rfl⟩
  full := by simp
  sized := by simp
  whole := by simp

/-- An incomplete batch, after which the iterator has ended or raised. -/
theorem Batched.rest (short : items.length < size) : Batched size items true [] where
  joined := ⟨items, rfl, short, fun calm => by cases calm⟩
  full := by simp
  sized := by simp
  whole := by simp

theorem Batched.last (nonempty : items ≠ []) (short : items.length < size) :
    Batched size items false [items] where
  joined := ⟨[], by simp, by simpa using Nat.zero_lt_of_lt short, fun _ => rfl⟩
  full := by simp
  sized := by simpa using ⟨nonempty, short.le⟩
  whole := by simp

theorem Batched.cons (positive : 0 < size) (full : batch.length = size)
    (batched : Batched size items failed batches) :
    Batched size (batch ++ items) failed (batch :: batches) where
  joined := by
    obtain ⟨lost, joined, short, kept⟩ := batched.joined
    exact ⟨lost, by simp [← joined], short, kept⟩
  full := by
    intro other inside
    cases batches with
    | nil => simp at inside
    | cons next more =>
        rw [List.dropLast_cons_cons] at inside
        obtain rfl | inside := List.mem_cons.mp inside
        · exact full
        · exact batched.full other inside
  sized := by
    rw [List.forall_mem_cons]
    exact ⟨⟨List.ne_nil_of_length_pos (full ▸ positive), full.le⟩, batched.sized⟩
  whole := by
    intro raised
    rw [List.forall_mem_cons]
    exact ⟨full, batched.whole raised⟩

end Batched

section Batching

variable {inner : AsyncIterator σ ε α} {size : Nat} {frame : Frame} {state : σ}

theorem batching_anext (live : frame ≠ .finished) :
    (batching none size inner).anext (frame, (false, state)) =
      settle (gather inner size [] state) := by
  cases frame with
  | finished => exact absurd rfl live
  | created | suspended => rfl

/-- After the last batch there is nothing. -/
theorem batching_spent (frame : Frame) (live : frame ≠ .created) (count : Nat) :
    (batching none size inner).values count (frame, (true, state)) = [] ∧
      (batching none size inner).raised count (frame, (true, state)) = none ∧
      ((batching none size inner).pull count (frame, (true, state))).2.2 = state := by
  have ended : (batching none size inner).anext (.finished, (true, state)) =
      (.ends, (.finished, (true, state))) := rfl
  cases frame with
  | created => exact absurd rfl live
  | finished =>
      exact ⟨AsyncIterator.values_ended ended count, AsyncIterator.raised_ended ended count,
        by rw [AsyncIterator.pull_ended ended]⟩
  | suspended =>
      have called : (batching none size inner).anext (.suspended, (true, state)) =
          (.ends, (.finished, (true, state))) := rfl
      cases count with
      | zero => exact ⟨rfl, rfl, rfl⟩
      | succ count =>
          obtain ⟨stopped, nothing, calm⟩ := generator_stopped called rfl count
          exact ⟨nothing, calm, congrArg (fun state => state.2.2) stopped⟩

/-- The generator does not close the iterator. -/
theorem batching_aclose (before : Frame × (Bool × σ)) :
    ((batching none size inner).aclose before).2 = before.2 := by
  obtain ⟨frame, state⟩ := before
  cases frame <;> rfl

variable (inner) in
/-- Some calls read as many items as their batches have room for. -/
theorem batching_runs (settles : inner.Settles) (positive : 0 < size) (live : frame ≠ .finished)
    (count : Nat) :
    Batched size (inner.values (count * size) state) (inner.raised (count * size) state).isSome
        ((batching none size inner).values count (frame, (false, state))) ∧
      (batching none size inner).raised count (frame, (false, state)) =
        inner.raised (count * size) state ∧
      ((batching none size inner).pull count (frame, (false, state))).2.2 =
        inner.pull (count * size) state := by
  induction count generalizing frame state with
  | zero =>
      rw [Nat.zero_mul]
      exact ⟨.nil positive, rfl, rfl⟩
  | succ count ih =>
      have calls : (count + 1) * size = size + count * size := by rw [Nat.succ_mul, Nat.add_comm]
      rw [calls, AsyncIterator.values_add, AsyncIterator.raised_add,
        AsyncIterator.pull_add inner, AsyncIterator.values, AsyncIterator.raised,
        AsyncIterator.pull, batching_anext live]
      by_cases full : (inner.values size state).length = size
      · obtain ⟨gathered, calm⟩ := gather_full [] full
        have suspended : Frame.suspended ≠ .finished := by simp
        obtain ⟨batched, raised, pulled⟩ := @ih .suspended (inner.pull size state) suspended
        rw [gathered, calm]
        exact ⟨.cons positive full batched, raised, pulled⟩
      · have short : (inner.values size state).length < size :=
          Nat.lt_of_le_of_ne (length_values_le inner size state) full
        obtain ⟨gathered, ended⟩ := gather_short settles [] short
        rw [gathered, AsyncIterator.values_ended ended, AsyncIterator.raised_ended ended,
          AsyncIterator.pull_ended ended, List.append_nil, List.nil_append, Option.or_none]
        cases failed : inner.raised size state with
        | some exception =>
            obtain ⟨nothing, -, stays⟩ := batching_spent .finished (by simp) count
            refine ⟨?_, rfl, stays⟩
            change Batched size _ true
              ((batching none size inner).values count (.finished, (true, inner.pull size state)))
            rw [nothing]
            exact .rest short
        | none =>
            cases items : inner.values size state with
            | nil =>
                obtain ⟨nothing, calm, stays⟩ := batching_spent .finished (by simp) count
                refine ⟨?_, calm, stays⟩
                change Batched size [] false
                  ((batching none size inner).values count (.finished, (true, inner.pull size state)))
                rw [nothing]
                exact .nil positive
            | cons item rest =>
                obtain ⟨nothing, calm, stays⟩ := batching_spent .suspended (by simp) count
                rw [items] at short
                refine ⟨?_, calm, stays⟩
                change Batched size (item :: rest) false ((item :: rest) ::
                  (batching none size inner).values count (.suspended, (true, inner.pull size state)))
                rw [nothing]
                exact .last (by simp) short

end Batching

end JVLinkServer.AsyncGenerators
