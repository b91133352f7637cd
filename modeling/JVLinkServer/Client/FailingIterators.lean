import JVLinkServer.Client.LineRows

namespace JVLinkServer.Client

open AsyncGenerators

/-! # What comes out of a failure -/

/-- An exception of the client, and a timeout as what it is. -/
def PythonException.Surfaces : PythonException → Prop
  | .jvLink error =>
      ∀ exception, error.cause = some (.httpx exception) → exception.isTimeout = true →
        error.cls = .timeoutError
  | .httpx _ | .builtin _ => False

def ResponseState.Released (response : ResponseState) : Prop :=
  response.entered = true → response.closed = true

/-- Whatever leaves a request or the iterator it returns, called in any way, is an
exception of the client, and finds the responses closed. -/
structure FailuresSurface (iterator : Opened →
      AsyncIterator (Frame × (Frame × LineStream)) PythonException Json)
    (result : Except PythonException Opened × List ResponseState) : Prop where
  raised : ∀ exception, result.1 = .error exception →
    exception.Surfaces ∧ ∀ response ∈ result.2, response.Released
  iterated : ∀ opened, result.1 = .ok opened → ∀ calls exception after,
    (iterator opened).anext ((iterator opened).after calls opened.start) =
      (.raises exception, after) →
    exception.Surfaces ∧ after.2.2.response.Released

/-! ## Failures of the iterator -/

section Rows

variable {ε : Type} {stream : RowStream ε} {exception : ε}

theorem recordGenerator_raises {stream after : Frame × Response ε}
    (raised : recordGenerator.anext stream = (.raises exception, after)) :
    stream.2.failure = some exception ∧ after.2.closed = true := by
  obtain ⟨frame, response⟩ := stream
  by_cases finished : frame = .finished
  · subst finished
    cases raised
  · cases rows : response.rows with
    | cons row rows =>
        rw [recordGenerator_row finished rows] at raised
        cases raised
    | nil =>
        rw [recordGenerator_end finished rows] at raised
        cases failed : response.failure with
        | none => simp [Response.ending, failed] at raised
        | some other =>
            simp only [Response.ending, failed, Prod.mk.injEq, Pulled.raises.injEq] at raised
            obtain ⟨rfl, rfl⟩ := raised
            exact ⟨rfl, rfl⟩

theorem recordGenerator_failure (stream : Frame × Response ε) :
    (recordGenerator.anext stream).2.2.failure = stream.2.failure := by
  obtain ⟨frame, response⟩ := stream
  by_cases finished : frame = .finished
  · subst finished
    rfl
  · cases rows : response.rows with
    | cons row rows => rw [recordGenerator_row finished rows]
    | nil =>
        rw [recordGenerator_end finished rows]
        rfl

theorem filteredNext_failure (fuel : Nat) (stream : Frame × Response ε) :
    (filteredNext fuel stream).2.2.failure = stream.2.failure ∧
      ∀ exception after, filteredNext fuel stream = (.raises exception, after) →
        stream.2.failure = some exception ∧ after.2.closed = true := by
  induction fuel generalizing stream with
  | zero => exact ⟨rfl, fun _ _ raised => by cases raised⟩
  | succ fuel ih =>
      have same := recordGenerator_failure stream
      rw [filteredNext]
      cases read : recordGenerator.anext stream with
      | mk pulled after =>
          rw [read] at same
          cases pulled with
          | ends => exact ⟨same, fun _ _ raised => by cases raised⟩
          | raises other =>
              refine ⟨same, fun exception left raised => ?_⟩
              simp only [Prod.mk.injEq, Pulled.raises.injEq] at raised
              obtain ⟨rfl, rfl⟩ := raised
              exact recordGenerator_raises read
          | yields row =>
              cases kept : keepsRecord row with
              | true => exact ⟨by simpa [kept] using same, fun _ _ raised => by simp [kept] at raised⟩
              | false =>
                  obtain ⟨later, raises⟩ := ih after
                  refine ⟨by simpa [kept] using later.trans same, fun exception left raised => ?_⟩
                  have found := raises exception left (by simpa [kept] using raised)
                  exact ⟨same ▸ found.1, found.2⟩

theorem records_raises {excludeDeletions : Bool} {after : RowStream ε}
    (raised : (records excludeDeletions).anext stream = (.raises exception, after)) :
    stream.response.failure = some exception ∧ after.response.closed = true := by
  obtain ⟨filter, reading⟩ := stream
  cases excludeDeletions with
  | false =>
      simp only [records, Bool.false_eq_true, if_false, AsyncIterator.beside,
        Prod.mk.injEq] at raised
      obtain ⟨pulled, rfl⟩ := raised
      exact recordGenerator_raises (Prod.ext pulled rfl)
  | true =>
      have loop := (filteredNext_failure (reading.2.rows.length + 1) reading).2
      cases filter with
      | finished => cases raised
      | _ =>
          cases read : filteredNext (reading.2.rows.length + 1) reading with
          | mk pulled left =>
              simp only [records, if_true, filtered, generator_anext_created,
                generator_anext_suspended, read] at raised
              cases pulled with
              | raises other =>
                  simp only [settle, Prod.mk.injEq, Pulled.raises.injEq] at raised
                  obtain ⟨rfl, rfl⟩ := raised
                  exact loop _ _ read
              | _ => simp [settle] at raised

theorem records_failure (excludeDeletions : Bool) (calls : List AsyncIterator.Call) :
    ((records excludeDeletions).after calls stream).response.failure =
      stream.response.failure := by
  let kept (after : RowStream ε) : Prop := after.response.failure = stream.response.failure
  have start : kept stream := rfl
  refine AsyncIterator.after_keeps ?_ ?_ calls start
  · intro after kept
    obtain ⟨filter, reading⟩ := after
    cases excludeDeletions with
    | false => exact (recordGenerator_failure reading).trans kept
    | true =>
        have loop := (filteredNext_failure (reading.2.rows.length + 1) reading).1
        cases filter with
        | finished => exact kept
        | _ =>
            cases read : filteredNext (reading.2.rows.length + 1) reading with
            | mk pulled left =>
                rw [read] at loop
                simp only [records, if_true, filtered, generator_anext_created,
                  generator_anext_suspended, read]
                cases pulled <;> exact loop.trans kept
  · intro after kept
    obtain ⟨filter, frame, response⟩ := after
    cases excludeDeletions <;> cases filter <;> cases frame <;> exact kept

/-- Reading on comes to the failure. -/
theorem records_fail {excludeDeletions : Bool} (live : stream.Live excludeDeletions)
    (failed : stream.response.failure = some exception) :
    ∃ calls after, (records excludeDeletions).anext
      ((records excludeDeletions).after calls stream) = (.raises exception, after) := by
  generalize kept : keptRows excludeDeletions stream.response.rows = rows
  induction rows generalizing stream with
  | nil =>
      obtain ⟨after, called, -⟩ := records_end live kept
      exact ⟨[], after, by rw [AsyncIterator.after, called, Response.ending, failed]⟩
  | cons row rows ih =>
      obtain ⟨after, called, reading, response⟩ := records_row live kept
      have rest : keptRows excludeDeletions after.response.rows = rows := by
        rw [response, keptRows_readPast, kept, List.tail_cons]
      obtain ⟨calls, last, raised⟩ := ih reading.live (by rw [response]; exact failed) rest
      exact ⟨.anext :: calls, last, by rw [AsyncIterator.after, called]; exact raised⟩

end Rows

section Iterators

variable {python : PythonStr} {library : PythonLibrary} {opened : Opened}

theorem Opened.Reads.left {stream : Frame × LineStream}
    {response : Frame × Response PythonException}
    (reads : opened.Reads python library stream response) : stream.2.Left response.2 := by
  unfold Opened.Reads Framed at reads
  split at reads <;> obtain ⟨-, reads⟩ := reads <;> split at reads
  · exact reads
  · exact reads.left
  · exact reads
  · exact reads.left

theorem Opened.Stands.left {excludeDeletions : Bool} {state : Frame × (Frame × LineStream)}
    {stream : RowStream PythonException}
    (stands : opened.Stands python library excludeDeletions state stream) :
    state.2.2.Left stream.response := by
  cases excludeDeletions with
  | false => exact stands.2.left
  | true =>
      obtain ⟨-, reads⟩ := stands
      split at reads <;> exact reads.left

/-- The exception after the rows is all that can leave the iterator. -/
theorem Opened.records_surface_iff (excludeDeletions : Bool) :
    (∀ calls exception after,
        (opened.records python library excludeDeletions).anext
            ((opened.records python library excludeDeletions).after calls opened.start) =
          (.raises exception, after) →
        exception.Surfaces ∧ after.2.2.response.Released) ↔
      ∀ exception, (opened.answer python library).failure = some exception →
        exception.Surfaces := by
  have simulates : AsyncIterator.Simulates (opened.Stands python library excludeDeletions) _ _ :=
    opened.records_simulates excludeDeletions
  have stands (calls : List AsyncIterator.Call) := simulates.after calls
    (opened.start_stands python library excludeDeletions)
  constructor
  · intro surface exception failed
    obtain ⟨calls, after, raised⟩ :=
      records_fail (@Answer.live _ excludeDeletions (opened.answer python library)) failed
    have called := (simulates.anext (stands calls)).1
    rw [raised] at called
    exact (surface calls exception _ (Prod.ext called rfl)).1
  · intro surface calls exception after raised
    obtain ⟨called, left⟩ := simulates.anext (stands calls)
    rw [raised] at called left
    obtain ⟨failed, closed⟩ := records_raises (Prod.ext called.symm rfl)
    rw [records_failure] at failed
    exact ⟨surface exception failed, fun _ => left.left.closed.trans closed⟩

end Iterators

end JVLinkServer.Client
