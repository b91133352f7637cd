import JVLinkServer.Client.HttpTransport

namespace JVLinkServer.Client

open AsyncGenerators

/-! # The rows behind the lines

The generators on the lines of a response do what those on its rows do.
-/

variable (python : PythonStr) (library : PythonLibrary)

/-- The rows that lines come to, and the exception after them. -/
def rowsOf (failure : Option HttpxException) :
    List Bytes → List Json × Option PythonException
  | [] => ([], failure.map .httpx)
  | line :: rest =>
      if line.isEmpty then rowsOf failure rest
      else
        match readRow python library line with
        | .ok row => (row :: (rowsOf failure rest).1, (rowsOf failure rest).2)
        | .error exception => ([], some exception)

/-- What the transport has made of a request. -/
def Opened.answer (opened : Opened) : Answer PythonException :=
  if opened.noData then { metadata := opened.metadata, noData := true }
  else
    { metadata := opened.metadata
      rows := (rowsOf python library opened.failure opened.lines).1
      failure := (rowsOf python library opened.failure opened.lines).2 }

variable {python library} {failure : Option HttpxException} {lines : List Bytes}

theorem rowsOf_length : (rowsOf python library failure lines).1.length ≤ lines.length := by
  induction lines with
  | nil => simp [rowsOf]
  | cons line rest ih =>
      simp only [rowsOf, List.length_cons]
      split
      · omega
      · split
        · simpa using ih
        · simp

variable (python library failure lines) in
/-- One turn of the loop reads the first row, or comes to the end. -/
theorem nextRow_rows : ∃ rest,
    nextRow python library failure lines =
      (match rowsOf python library failure lines with
        | (row :: _, _) => .yields row
        | ([], some exception) => .raises exception
        | ([], none) => .ends, rest) ∧
      ((rowsOf python library failure lines).1 ≠ [] →
        rowsOf python library failure rest =
          ((rowsOf python library failure lines).1.tail,
            (rowsOf python library failure lines).2)) := by
  induction lines with
  | nil =>
      refine ⟨[], ?_, fun some => absurd rfl some⟩
      cases failure <;> rfl
  | cons line rest ih =>
      by_cases empty : line.isEmpty = true
      · simpa only [nextRow, rowsOf, empty, if_true] using ih
      · cases read : readRow python library line with
        | ok row =>
            refine ⟨rest, ?_, ?_⟩ <;> simp [nextRow, rowsOf, empty, read]
        | error exception =>
            refine ⟨rest, ?_, ?_⟩ <;> simp [nextRow, rowsOf, empty, read]

variable (python library) in
/-- A stream of lines stands for a response. -/
structure LineStream.Reads (stream : LineStream) (response : Response PythonException) :
    Prop where
  rows : rowsOf python library stream.failure stream.lines = (response.rows, response.failure)
  entered : stream.response.entered = true
  closed : stream.response.closed = response.closed

/-- They are closed alike. -/
structure LineStream.Left (stream : LineStream) (response : Response PythonException) :
    Prop where
  entered : stream.response.entered = true
  closed : stream.response.closed = response.closed

theorem LineStream.Left.close {stream : LineStream} {response : Response PythonException}
    (left : stream.Left response) : stream.close.Left response.close := by
  obtain ⟨entered, closed⟩ := left
  cases done : stream.response.closed <;>
    constructor <;> simp [LineStream.close, closeResponse, Response.close, done, entered]

theorem LineStream.Reads.left {stream : LineStream} {response : Response PythonException}
    (reads : stream.Reads python library response) : stream.Left response :=
  ⟨reads.entered, reads.closed⟩

/-- The body of `record_generator`, on the rows. -/
def Response.next {ε : Type} (response : Response ε) : Pulled ε Json × Response ε :=
  finallyDo Response.close
    (match response.rows with
    | row :: rows => (.yields row, { response with rows })
    | [] =>
        match response.failure with
        | none => (.ends, response)
        | some exception => (.raises exception, response))

theorem recordGenerator_eq {ε : Type} :
    recordGenerator (ε := ε) =
      generator { start := Response.next, resume := Response.next, exit := Response.close } :=
  rfl

theorem lineGenerator_simulates :
    AsyncIterator.Simulates (Framed (LineStream.Reads python library) LineStream.Left)
      (lineGenerator python library) recordGenerator := by
  have next {stream : LineStream} {response : Response PythonException}
      (reads : stream.Reads python library response) :
      Stepped (LineStream.Reads python library) LineStream.Left
        (stream.next python library)
        response.next := by
    obtain ⟨rest, turn, after⟩ :=
      nextRow_rows python library stream.failure stream.lines
    rw [reads.rows] at turn after
    rw [LineStream.next, Response.next, turn]
    have left : ({ stream with lines := rest } : LineStream).Left response :=
      ⟨reads.entered, reads.closed⟩
    cases rows : response.rows with
    | cons row more =>
        rw [rows] at after
        exact ⟨rfl, after (by simp), reads.entered, reads.closed⟩
    | nil =>
        cases raised : response.failure with
        | none => exact ⟨rfl, left.close⟩
        | some exception => exact ⟨rfl, left.close⟩
  rw [recordGenerator_eq]
  exact generator_simulates (fun reads => next reads) (fun reads => next reads)
    (fun reads => reads.left.close) (fun reads => reads.left)

/-- A stream without data, which is closed from the start. -/
structure LineStream.NoData (stream : LineStream) (response : Response PythonException) :
    Prop where
  rows : response.rows = []
  failure : response.failure = none
  entered : stream.response.entered = true
  here : stream.response.closed = true
  there : response.closed = true

theorem LineStream.NoData.left {stream : LineStream} {response : Response PythonException}
    (noData : stream.NoData response) : stream.Left response :=
  ⟨noData.entered, noData.here.trans noData.there.symm⟩

theorem emptyGenerator_simulates :
    AsyncIterator.Simulates (Framed LineStream.NoData LineStream.Left)
      emptyGenerator recordGenerator := by
  have closing {stream : LineStream} {response : Response PythonException}
      (noData : stream.NoData response) : stream.Left response.close :=
    ⟨noData.entered, noData.here⟩
  have next {stream : LineStream} {response : Response PythonException}
      (noData : stream.NoData response) :
      Stepped LineStream.NoData LineStream.Left ((.ends, stream) : Pulled PythonException Json × _)
        response.next := by
    rw [Response.next, noData.rows, noData.failure]
    exact ⟨rfl, closing noData⟩
  rw [recordGenerator_eq]
  exact generator_simulates (fun noData => next noData) (fun noData => next noData)
    (fun noData => closing noData) (fun noData => noData.left)

variable (python library) in
/-- Where the generator of an opened stream stands beside that of its answer. -/
def Opened.Reads (opened : Opened) (stream : Frame × LineStream)
    (response : Frame × Response PythonException) : Prop :=
  if opened.noData then Framed LineStream.NoData LineStream.Left stream response
  else Framed (LineStream.Reads python library) LineStream.Left stream response

variable {opened : Opened}

theorem Opened.rows_simulates :
    AsyncIterator.Simulates (opened.Reads python library) (opened.rows python library)
      recordGenerator := by
  cases noData : opened.noData with
  | true =>
      have empty : opened.Reads python library = Framed LineStream.NoData LineStream.Left := by
        funext stream response
        simp [Opened.Reads, noData]
      rw [empty, Opened.rows, if_pos noData]
      exact emptyGenerator_simulates
  | false =>
      have lines : opened.Reads python library =
          Framed (LineStream.Reads python library) LineStream.Left := by
        funext stream response
        simp [Opened.Reads, noData]
      have reads : ¬ opened.noData = true := by simp [noData]
      rw [lines, Opened.rows, if_neg reads]
      exact lineGenerator_simulates

/-! ## Without the deletions -/

/-- Only the rows that are left count. -/
theorem filteredNext_enough {ε : Type} {frame : Frame} {response : Response ε} {fuel : Nat}
    (enough : frame = .finished ∨ response.rows.length < fuel) (positive : 0 < fuel) :
    filteredNext fuel (frame, response) =
      filteredNext (response.rows.length + 1) (frame, response) := by
  cases finished : decide (frame = .finished) with
  | true =>
      obtain rfl : frame = .finished := of_decide_eq_true finished
      obtain ⟨fuel, rfl⟩ := Nat.exists_eq_succ_of_ne_zero (Nat.ne_of_gt positive)
      rfl
  | false =>
      have live : frame ≠ .finished := of_decide_eq_false finished
      have rows : response.rows.length < fuel := enough.resolve_left live
      cases kept : response.rows.filter keepsRecord with
      | nil =>
          rw [filteredNext_end live rows kept,
            filteredNext_end live (Nat.lt_succ_self _) kept]
      | cons row more =>
          rw [filteredNext_row live rows kept,
            filteredNext_row live (Nat.lt_succ_self _) kept]

theorem filteredNextOver_simulates {σ : Type} {rows : AsyncIterator σ PythonException Json}
    {related : σ → Frame × Response PythonException → Prop}
    (simulates : AsyncIterator.Simulates related rows recordGenerator) (fuel : Nat) {state : σ}
    {stream : Frame × Response PythonException} (alike : related state stream) :
    Stepped related related (filteredNextOver rows fuel state) (filteredNext fuel stream) := by
  induction fuel generalizing state stream with
  | zero => exact ⟨rfl, alike⟩
  | succ fuel ih =>
      have stepped := simulates.anext alike
      rw [filteredNextOver, filteredNext]
      revert stepped
      generalize rows.anext state = read
      generalize recordGenerator.anext stream = read'
      obtain ⟨pulled, after⟩ := read
      obtain ⟨pulled', after'⟩ := read'
      rintro ⟨same, alike⟩
      obtain rfl : pulled = pulled' := same
      cases pulled with
      | ends => exact ⟨rfl, alike⟩
      | raises exception => exact ⟨rfl, alike⟩
      | yields row =>
          cases kept : keepsRecord row with
          | true =>
              simp only [kept, if_true]
              exact ⟨rfl, alike⟩
          | false =>
              simp only [kept, Bool.false_eq_true, if_false]
              exact ih alike

/-- The lines bound the rows that are left. -/
theorem Opened.Reads.enough {stream : Frame × LineStream}
    {response : Frame × Response PythonException}
    (reads : opened.Reads python library stream response) :
    response.1 = .finished ∨ response.2.rows.length < stream.2.lines.length + 1 := by
  obtain ⟨frame, stream⟩ := stream
  obtain ⟨frame', response⟩ := response
  cases finished : decide (frame' = .finished) with
  | true => exact .inl (of_decide_eq_true finished)
  | false =>
      have live : frame' ≠ .finished := of_decide_eq_false finished
      right
      unfold Opened.Reads at reads
      split at reads
      · obtain rfl : frame = frame' := reads.1
        simp [(reads.of_live live).rows]
      · obtain rfl : frame = frame' := reads.1
        have counted := (reads.of_live live).rows
        have bounded : (rowsOf python library stream.failure stream.lines).1.length ≤ _ :=
          rowsOf_length
        rw [counted] at bounded
        exact Nat.lt_succ_of_le bounded

variable (python library) in
/-- Where both generators of an opened stream stand beside those of its answer. -/
def Opened.Stands (opened : Opened) (excludeDeletions : Bool)
    (state : Frame × (Frame × LineStream)) (stream : RowStream PythonException) : Prop :=
  if excludeDeletions then
    Framed (opened.Reads python library) (opened.Reads python library) state stream
  else state.1 = stream.1 ∧ opened.Reads python library state.2 stream.2

theorem Opened.filtered_simulates :
    AsyncIterator.Simulates
      (Framed (opened.Reads python library) (opened.Reads python library))
      (filteredOver (opened.rows python library) fun stream => stream.2.lines.length)
      filtered := by
  have next {state : Frame × LineStream} {stream : Frame × Response PythonException}
      (reads : opened.Reads python library state stream) :
      Stepped (opened.Reads python library) (opened.Reads python library)
        (filteredNextOver (opened.rows python library) (state.2.lines.length + 1) state)
        (filteredNext (stream.2.rows.length + 1) stream) := by
    rw [← filteredNext_enough reads.enough (Nat.succ_pos _)]
    exact filteredNextOver_simulates Opened.rows_simulates _ reads
  exact generator_simulates next next id id

/-- The iterator of a query on the lines simulates the one on the rows. -/
theorem Opened.records_simulates (excludeDeletions : Bool) :
    AsyncIterator.Simulates (opened.Stands python library excludeDeletions)
      (opened.records python library excludeDeletions) (Client.records excludeDeletions) := by
  cases excludeDeletions with
  | true => exact Opened.filtered_simulates
  | false => exact Opened.rows_simulates.beside

variable (python library) in
theorem Opened.start_stands (opened : Opened) (excludeDeletions : Bool) :
    opened.Stands python library excludeDeletions opened.start
      (opened.answer python library).stream := by
  have reads : opened.Reads python library opened.start.2
      (opened.answer python library).stream.2 := by
    unfold Opened.Reads Opened.answer
    split
    · rename_i noData
      exact ⟨rfl, rfl, rfl, rfl, noData, rfl⟩
    · rename_i reads
      exact ⟨rfl, rfl, rfl, by simpa [Opened.start, Answer.stream] using reads⟩
  cases excludeDeletions with
  | true => exact ⟨rfl, reads⟩
  | false => exact ⟨rfl, reads⟩

end JVLinkServer.Client
