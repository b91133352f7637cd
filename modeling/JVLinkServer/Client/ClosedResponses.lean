import JVLinkServer.Client.Records

namespace JVLinkServer.Client

open AsyncGenerators

/-! # Closing the responses of a query -/

variable {ε β : Type}

/-- The queries of the client. -/
inductive Query (ε : Type)
  | stored (arguments : StoredArguments) (transport : Transport ε)
  | realtime (answer : Except ε (Answer ε))

/-- What a query opens before it returns. -/
def Query.opened : Query ε → Except ε (QueryRows ε)
  | .stored arguments transport => queryStoredRaw arguments transport
  | .realtime answer => queryRealtimeRaw answer

def QueryRows.AllClosed (rows : QueryRows ε) : Prop :=
  ∀ response ∈ rows.responses, response.closed = true

theorem QueryRows.AllClosed.of_remains {rows other : QueryRows ε}
    (same : rows.remains = other.remains) : rows.AllClosed ↔ other.AllClosed := by
  have responses : rows.responses = other.responses := congrArg (·.2.1) same
  rw [QueryRows.AllClosed, QueryRows.AllClosed, responses]

instance (rows : QueryRows ε) : Decidable rows.AllClosed :=
  inferInstanceAs (Decidable (∀ response ∈ rows.responses, response.closed = true))

/-! ## When the responses are closed -/

/-- The responses are closed when the consumer closes after these calls of `anext` on
the generator below the envelopes. -/
def Query.closesAfter (query : Query ε) (count : Nat) : Bool :=
  match query with
  | .realtime (.ok answer) => answer.noData || decide (0 < count)
  | .realtime (.error _) => true
  | .stored arguments transport =>
      match arguments.standing? transport count with
      | some standing => standing.closes arguments count
      | none => true

/-- The calls that the typed records make of it. -/
def Query.typedCalls (query : Query ε) (python : PythonStr) (includeRaw : Bool)
    (decodeEnvelope : RecordEnvelope → Except ε β) (count : Nat) : Nat :=
  match query with
  | .realtime _ => count
  | .stored arguments transport =>
      arguments.typedCalls transport python includeRaw decodeEnvelope count

section Realtime

variable {stream : RowStream ε}

theorem realtime_closed_at_end (live : stream.Live false)
    (left : keptRows false stream.response.rows = []) (count : Nat) :
    (((records false).stopAfter (count + 1) stream).response).closed = true := by
  obtain ⟨after, called, ended, response⟩ := records_end live left
  rw [AsyncIterator.stopAfter, AsyncIterator.pull, called,
    AsyncIterator.pull_ended (records_anext_ended ended), records_aclose_ended ended, response]

/-- A call reads a row, or the response to its end. -/
theorem realtime_closed (live : stream.Live false) (count : Nat) :
    (((records false).stopAfter (count + 1) stream).response).closed = true := by
  induction count generalizing stream with
  | zero =>
      cases left : keptRows false stream.response.rows with
      | nil => exact realtime_closed_at_end live left 0
      | cons row more =>
          obtain ⟨after, called, reading, -⟩ := records_row live left
          rw [AsyncIterator.stopAfter, AsyncIterator.pull, called, AsyncIterator.pull,
            records_aclose_reading reading]
          simp
  | succ count ih =>
      cases left : keptRows false stream.response.rows with
      | nil => exact realtime_closed_at_end live left (count + 1)
      | cons row more =>
          obtain ⟨after, called, reading, -⟩ := records_row live left
          have rest := ih reading.live
          rw [AsyncIterator.stopAfter, AsyncIterator.pull, called]
          exact rest

end Realtime

section Stored

variable {arguments : StoredArguments} {transport : Transport ε} {rows : QueryRows ε}

theorem Opens.allClosed (opens : Opens arguments transport rows) (count : Nat) :
    (QueryRows.iterator.stopAfter count rows).AllClosed ↔
      (Query.stored arguments transport).closesAfter count = true := by
  rw [Query.closesAfter]
  rcases opens.standing? count with ⟨nowhere, metadata, rfl, -⟩ | ⟨standing, stands, leaves, -⟩
  · simp [nowhere, nothing_stopAfter, QueryRows.AllClosed, QueryRows.responses]
  · rw [stands, QueryRows.AllClosed, leaves.responses, leaves.streams]
    simp only [Standing.doneResponses, List.map_append, List.map_map, List.mem_append,
      List.mem_map, List.map_cons, List.map_nil, List.mem_singleton]
    constructor
    · intro all
      exact all _ (.inr rfl)
    · rintro closes response (⟨leg, -, rfl⟩ | rfl)
      · rfl
      · exact closes

end Stored

theorem realtime_allClosed (answer : Answer ε) (count : Nat) :
    (QueryRows.iterator.stopAfter count (.realtime answer.stream)).AllClosed ↔
      (Query.realtime (.ok answer)).closesAfter count = true := by
  have pulled : QueryRows.iterator.pull count (.realtime answer.stream) =
      .realtime ((records false).pull count answer.stream) :=
    AsyncIterator.pull_embed QueryRows.realtime (fun _ => rfl) count answer.stream
  rw [AsyncIterator.stopAfter, pulled]
  have responses (stream : RowStream ε) : QueryRows.responses (QueryRows.iterator.aclose
      (.realtime stream)) = [((records false).aclose stream).response] := rfl
  rw [QueryRows.AllClosed, responses, List.forall_mem_singleton]
  cases count with
  | zero =>
      have unstarted : ((records false).aclose answer.stream).response.closed =
        answer.noData := rfl
      rw [AsyncIterator.pull, unstarted]
      simp [Query.closesAfter]
  | succ count =>
      have live : answer.stream.Live false := answer.live
      have closed := realtime_closed live count
      rw [AsyncIterator.stopAfter] at closed
      simpa [Query.closesAfter] using closed

/-- Stopping a query closes its responses exactly when its generators get to it. -/
theorem stopping_closes_iff (python : PythonStr) (includeRaw : Bool)
    (decodeEnvelope : RecordEnvelope → Except ε β) {query : Query ε} {rows : QueryRows ε}
    (opened : query.opened = .ok rows) (count : Nat) :
    (((rawRecords python includeRaw).stopAfter count (.created, rows)).2.AllClosed ↔
        query.closesAfter count = true) ∧
      (((domainRecords python includeRaw decodeEnvelope).stopAfter count
          (.created, (.created, rows))).2.2.AllClosed ↔
        query.closesAfter (query.typedCalls python includeRaw decodeEnvelope count) = true) := by
  cases query with
  | stored arguments transport =>
      have opens := queryStoredRaw_opens opened
      have raw := QueryRows.AllClosed.of_remains (opens.raw_remains python includeRaw count)
      have domain := QueryRows.AllClosed.of_remains
        (opens.domain_remains python includeRaw decodeEnvelope count)
      exact ⟨raw.trans (opens.allClosed count), domain.trans (opens.allClosed _)⟩
  | realtime answered =>
      cases answered with
      | error exception => cases opened
      | ok answer =>
          cases opened
          have untouched : (QueryRows.iterator.aclose (.realtime answer.stream)).remains =
            (QueryRows.realtime answer.stream).remains := rfl
          have raw := QueryRows.AllClosed.of_remains
            (rawRecords_stopAfter python includeRaw untouched count)
          have domain := QueryRows.AllClosed.of_remains
            (domainRecords_stopAfter python includeRaw untouched decodeEnvelope count)
          refine ⟨raw.trans (realtime_allClosed answer count),
            (domain.trans (realtime_allClosed answer _)).trans ?_⟩
          cases count with
          | zero => rfl
          | succ count =>
              simp [Query.closesAfter, Query.typedCalls, pullsUntil_pos (Nat.succ_pos count)]

section Inputs

def aRace : Json := Json.record [("type", Json.text "RA"), ("data", .object [])]

/-- Two rows, whatever is asked for. -/
def twoRaces : Transport Unit := fun _ =>
  .ok { metadata := .object [], rows := [aRace, aRace] }

def racesWithoutDeletions : StoredArguments where
  input :=
    { dataspec := "RACE", dataspecs := ["RACE"], fromDatetime := "20240101000000"
      distinct := List.nodup_singleton "RACE" }
  option := 1
  maxRecords := -1
  excludeDeletions := true

end Inputs

theorem stopping_closes_iff_started :
    ∃ rows, (Query.stored racesWithoutDeletions twoRaces).opened = .ok rows ∧
      (((rawRecords plainText false).stopAfter 3 (.created, rows)).2.AllClosed ↔
        (Query.stored racesWithoutDeletions twoRaces).closesAfter 3 = true) :=
  ⟨_, rfl, (stopping_closes_iff plainText false
    (fun envelope => (.ok envelope : Except Unit RecordEnvelope)) rfl 3).1⟩

/-- Closed at its first row, `filtered` leaves the response open. -/
theorem filtered_response_stays_open :
    ¬ ∀ (query : Query Unit) (rows : QueryRows Unit) (count : Nat), query.opened = .ok rows →
      ((rawRecords plainText false).stopAfter count (.created, rows)).2.AllClosed := by
  intro closes
  have closed := closes (.stored racesWithoutDeletions twoRaces) _ 1 rfl
  revert closed
  decide +kernel

end JVLinkServer.Client
