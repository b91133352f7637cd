import JVLinkServer.AsyncGenerators
import JVLinkServer.Json

namespace JVLinkServer.Client

open AsyncGenerators

/-! # The rows of a response

What the transport returns for a query: the rows of one response, from which deletions
may be left out.  Lines and their parsing are behind it.
-/

variable {ε : Type}

/-- The response of a streaming request: its rows, those of them that are left, the
exception that comes after them if they do not simply end, and whether `close_response`
has run. -/
structure Response (ε : Type) where
  sent : List Json
  rows : List Json
  failure : Option ε
  closed : Bool := false

/-- The rows that have been read. -/
def Response.received (response : Response ε) : List Json :=
  response.sent.take (response.sent.length - response.rows.length)

def Response.close (response : Response ε) : Response ε := { response with closed := true }

/-- `record_generator` -/
def recordGenerator : AsyncIterator (Frame × Response ε) ε Json :=
  let next (response : Response ε) : Pulled ε Json × Response ε :=
    finallyDo Response.close
      (match response.rows with
      | row :: rows => (.yields row, { response with rows })
      | [] =>
          match response.failure with
          | none => (.ends, response)
          | some exception => (.raises exception, response))
  generator { start := next, resume := next, exit := Response.close }

/-- A row of the shape of a record that is not a deletion. -/
def keepsRecord (row : Json) : Bool :=
  match row.member? "data" with
  | some data =>
      data.isObject &&
        match data.member? "data_code" with
        | some (.string code) => code != utf8 "0"
        | _ => true
  | none => false

/-- The loop of `filtered` up to its next `yield`. -/
def filteredNext : (fuel : Nat) → Frame × Response ε → Pulled ε Json × (Frame × Response ε)
  | 0, stream => (.ends, stream)
  | fuel + 1, stream =>
      match recordGenerator.anext stream with
      | (.yields row, after) =>
          if keepsRecord row then (.yields row, after) else filteredNext fuel after
      | (.ends, after) => (.ends, after)
      | (.raises exception, after) => (.raises exception, after)

/-- `filtered`, which has no `finally`. -/
def filtered : AsyncIterator (Frame × (Frame × Response ε)) ε Json :=
  let next (stream : Frame × Response ε) := filteredNext (stream.2.rows.length + 1) stream
  generator { start := next, resume := next, exit := id }

/-- The frame of `filtered`, when there is one, that of `record_generator` and the response. -/
abbrev RowStream (ε : Type) := Frame × (Frame × Response ε)

/-- The iterator that a query returns. -/
def records (excludeDeletions : Bool) : AsyncIterator (RowStream ε) ε Json :=
  if excludeDeletions then filtered else recordGenerator.beside

/-- What the transport makes of a request: the metadata and the rows.  For `noData` it
has closed the response before it returns an empty generator. -/
structure Answer (ε : Type) where
  metadata : Json
  rows : List Json := []
  failure : Option ε := none
  noData : Bool := false
  empty : noData = true → rows = [] ∧ failure = none := by simp

/-- The stream before it is iterated over. -/
def Answer.stream (answer : Answer ε) : RowStream ε :=
  (.created, (.created,
    { sent := answer.rows, rows := answer.rows, failure := answer.failure
      closed := answer.noData }))

/-- The rows that come out. -/
def keptRows (excludeDeletions : Bool) (rows : List Json) : List Json :=
  if excludeDeletions then rows.filter keepsRecord else rows

/-- What is left of the rows after the first that comes out. -/
def readPast (excludeDeletions : Bool) (rows : List Json) : List Json :=
  (if excludeDeletions then rows.dropWhile (!keepsRecord ·) else rows).tail

/-- What is left of the rows after some have come out. -/
def unreadAfter (excludeDeletions : Bool) : (taken : Nat) → List Json → List Json
  | 0, rows => rows
  | taken + 1, rows => unreadAfter excludeDeletions taken (readPast excludeDeletions rows)

namespace RowStream

def response (stream : RowStream ε) : Response ε := stream.2.2

/-- The iterator has not come to an end. -/
def Live (excludeDeletions : Bool) (stream : RowStream ε) : Prop :=
  stream.2.1 ≠ .finished ∧ (excludeDeletions = true → stream.1 ≠ .finished)

/-- It stands at a `yield`. -/
def Reading (excludeDeletions : Bool) (stream : RowStream ε) : Prop :=
  stream.2.1 = .suspended ∧ (excludeDeletions = true → stream.1 = .suspended)

/-- It has come to an end. -/
def Ended (excludeDeletions : Bool) (stream : RowStream ε) : Prop :=
  stream.2.1 = .finished ∧ (excludeDeletions = true → stream.1 = .finished)

end RowStream

section Records

variable {excludeDeletions : Bool} {stream : RowStream ε}

theorem Answer.live (answer : Answer ε) : answer.stream.Live excludeDeletions :=
  ⟨by simp [Answer.stream], by simp [Answer.stream]⟩

theorem RowStream.Reading.live (reading : stream.Reading excludeDeletions) :
    stream.Live excludeDeletions :=
  ⟨by simp [reading.1], fun excludes => by simp [reading.2 excludes]⟩

/-- How a response that has no row left ends. -/
def Response.ending (response : Response ε) : Pulled ε Json :=
  match response.failure with
  | none => .ends
  | some exception => .raises exception

theorem recordGenerator_row {frame : Frame} {response : Response ε} {row : Json}
    {rows : List Json} (live : frame ≠ .finished) (left : response.rows = row :: rows) :
    recordGenerator.anext (frame, response) =
      (.yields row, (.suspended, { response with rows })) := by
  cases frame with
  | finished => exact absurd rfl live
  | _ => simp [recordGenerator, left, finallyDo, settle]

theorem recordGenerator_end {frame : Frame} {response : Response ε} (live : frame ≠ .finished)
    (left : response.rows = []) :
    recordGenerator.anext (frame, response) =
      (response.ending, (.finished, response.close)) := by
  cases frame with
  | finished => exact absurd rfl live
  | _ =>
      cases failure : response.failure <;>
        simp [recordGenerator, left, failure, finallyDo, settle, Response.ending]

theorem keptRows_readPast (rows : List Json) :
    keptRows excludeDeletions (readPast excludeDeletions rows) =
      (keptRows excludeDeletions rows).tail := by
  cases excludeDeletions with
  | false => rfl
  | true =>
      induction rows with
      | nil => rfl
      | cons first rest ih =>
          cases kept : keepsRecord first with
          | true => simp [keptRows, readPast, kept]
          | false => simpa [keptRows, readPast, kept] using ih

theorem keptRows_unreadAfter (taken : Nat) (rows : List Json) :
    keptRows excludeDeletions (unreadAfter excludeDeletions taken rows) =
      (keptRows excludeDeletions rows).drop taken := by
  induction taken generalizing rows with
  | zero => rfl
  | succ taken ih => rw [unreadAfter, ih, keptRows_readPast, List.drop_tail]

theorem unreadAfter_succ (taken : Nat) (rows : List Json) :
    unreadAfter excludeDeletions (taken + 1) rows =
      readPast excludeDeletions (unreadAfter excludeDeletions taken rows) := by
  induction taken generalizing rows with
  | zero => rfl
  | succ taken ih => rw [unreadAfter, ih, ← unreadAfter]

theorem filteredNext_row {fuel : Nat} {frame : Frame} {response : Response ε} {row : Json}
    {more : List Json} (live : frame ≠ .finished) (enough : response.rows.length < fuel)
    (left : response.rows.filter keepsRecord = row :: more) :
    filteredNext fuel (frame, response) =
      (.yields row, (.suspended, { response with rows := readPast true response.rows })) := by
  induction fuel generalizing frame response with
  | zero => omega
  | succ fuel ih =>
      cases rows : response.rows with
      | nil => simp [rows] at left
      | cons first rest =>
          rw [filteredNext, recordGenerator_row live rows]
          rw [rows] at left enough
          cases kept : keepsRecord first with
          | true =>
              obtain ⟨rfl, -⟩ : first = row ∧ rest.filter keepsRecord = more := by
                simpa [kept] using left
              simp [kept, readPast]
          | false =>
              have later : rest.filter keepsRecord = row :: more := by simpa [kept] using left
              have shorter : rest.length < fuel := by simpa using enough
              have suspended : Frame.suspended ≠ .finished := by simp
              have read : filteredNext fuel (.suspended, { response with rows := rest }) = _ :=
                ih suspended shorter later
              simpa [kept, readPast] using read

theorem filteredNext_end {fuel : Nat} {frame : Frame} {response : Response ε}
    (live : frame ≠ .finished) (enough : response.rows.length < fuel)
    (left : response.rows.filter keepsRecord = []) :
    filteredNext fuel (frame, response) =
      (response.ending, (.finished, { response with rows := [], closed := true })) := by
  induction fuel generalizing frame response with
  | zero => omega
  | succ fuel ih =>
      cases rows : response.rows with
      | nil =>
          rw [filteredNext, recordGenerator_end live rows]
          have unread : response.close = { response with rows := [], closed := true } := by
            rw [← rows]
            rfl
          rw [unread]
          cases failure : response.failure <;> simp [Response.ending, failure]
      | cons first rest =>
          rw [filteredNext, recordGenerator_row live rows]
          rw [rows] at left enough
          have dropped : keepsRecord first = false := by
            cases kept : keepsRecord first with
            | true => simp [kept] at left
            | false => rfl
          have later : rest.filter keepsRecord = [] := by simpa [dropped] using left
          have shorter : rest.length < fuel := by simpa using enough
          have suspended : Frame.suspended ≠ .finished := by simp
          have read : filteredNext fuel (.suspended, { response with rows := rest }) = _ :=
            ih suspended shorter later
          simpa [dropped, Response.ending] using read

/-- A live stream with a row left yields it and stands at the `yield`. -/
theorem records_row {row : Json} {more : List Json} (live : stream.Live excludeDeletions)
    (left : keptRows excludeDeletions stream.response.rows = row :: more) :
    ∃ after, (records excludeDeletions).anext stream = (.yields row, after) ∧
      after.Reading excludeDeletions ∧
      after.response = { stream.response with
        rows := readPast excludeDeletions stream.response.rows } := by
  obtain ⟨filter, frame, response⟩ := stream
  cases excludeDeletions with
  | false =>
      have unread : response.rows = row :: more := left
      have rest : readPast false response.rows = more := by simp [readPast, unread]
      refine ⟨(filter, (.suspended, { response with rows := more })), ?_, ⟨rfl, by simp⟩, ?_⟩
      · have read : recordGenerator.anext (frame, response) = _ := recordGenerator_row live.1 unread
        simp [records, AsyncIterator.beside, read]
      · simp only [RowStream.response, rest]
  | true =>
      have read : filteredNext (response.rows.length + 1) (frame, response) = _ :=
        filteredNext_row live.1 (Nat.lt_succ_self _) left
      refine ⟨(.suspended, (.suspended, { response with rows := readPast true response.rows })),
        ?_, ⟨rfl, by simp⟩, rfl⟩
      have started : filter ≠ .finished := live.2 rfl
      cases filter with
      | finished => exact absurd rfl started
      | _ => simp [records, filtered, read, settle]

/-- A live stream without a row left ends as its response does, and leaves it closed. -/
theorem records_end (live : stream.Live excludeDeletions)
    (left : keptRows excludeDeletions stream.response.rows = []) :
    ∃ after, (records excludeDeletions).anext stream = (stream.response.ending, after) ∧
      after.Ended excludeDeletions ∧
      after.response = { stream.response with rows := [], closed := true } := by
  obtain ⟨filter, frame, response⟩ := stream
  cases excludeDeletions with
  | false =>
      have unread : response.rows = [] := left
      refine ⟨(filter, (.finished, response.close)), ?_, ⟨rfl, by simp⟩, ?_⟩
      · have read : recordGenerator.anext (frame, response) = _ :=
          recordGenerator_end live.1 unread
        simp [records, AsyncIterator.beside, read, RowStream.response]
      · simp only [RowStream.response, Response.close, unread]
  | true =>
      have read : filteredNext (response.rows.length + 1) (frame, response) = _ :=
        filteredNext_end live.1 (Nat.lt_succ_self _) left
      refine ⟨(.finished, (.finished, { response with rows := [], closed := true })), ?_,
        ⟨rfl, by simp⟩, rfl⟩
      have started : filter ≠ .finished := live.2 rfl
      cases filter with
      | finished => exact absurd rfl started
      | _ =>
          cases failure : response.failure <;>
            simp [records, filtered, read, settle, Response.ending, failure, RowStream.response]

/-- Closing before the first row leaves the response alone. -/
theorem records_aclose_untouched (created : stream.2.1 = .created)
    (unfiltered : excludeDeletions = true → stream.1 = .created) :
    ((records excludeDeletions).aclose stream).response = stream.response := by
  obtain ⟨filter, frame, response⟩ := stream
  obtain rfl : frame = .created := created
  cases excludeDeletions with
  | false => rfl
  | true =>
      obtain rfl : filter = .created := unfiltered rfl
      rfl

/-- Closing at a `yield` closes the response, unless `filtered` stands before it. -/
theorem records_aclose_reading (reading : stream.Reading excludeDeletions) :
    ((records excludeDeletions).aclose stream).response =
      { stream.response with closed := stream.response.closed || !excludeDeletions } := by
  obtain ⟨filter, frame, response⟩ := stream
  obtain rfl : frame = .suspended := reading.1
  cases excludeDeletions with
  | false => simp [records, AsyncIterator.beside, recordGenerator, RowStream.response, Response.close]
  | true =>
      obtain rfl : filter = .suspended := reading.2 rfl
      simp [records, filtered, RowStream.response]

/-- Closing after the end changes nothing. -/
theorem records_aclose_ended (ended : stream.Ended excludeDeletions) :
    (records excludeDeletions).aclose stream = stream := by
  obtain ⟨filter, frame, response⟩ := stream
  obtain rfl : frame = .finished := ended.1
  cases excludeDeletions with
  | false => rfl
  | true =>
      obtain rfl : filter = .finished := ended.2 rfl
      rfl

theorem records_anext_ended (ended : stream.Ended excludeDeletions) :
    (records excludeDeletions).anext stream = (.ends, stream) := by
  obtain ⟨filter, frame, response⟩ := stream
  obtain rfl : frame = .finished := ended.1
  cases excludeDeletions with
  | false => rfl
  | true =>
      obtain rfl : filter = .finished := ended.2 rfl
      rfl

end Records

end JVLinkServer.Client
