import JVLinkServer.Client.RowStreams
import JVLinkServer.Client.StoredMeta

namespace JVLinkServer.Client

open AsyncGenerators

/-! # The generators of a stored query

`counted_rows` and `iterate_rows` pass on rows and stop at the limit; they share the
variables `remaining_records` and the metadata with the function around them.
-/

variable {ε τ : Type}

/-- The variables around the generators. -/
structure Tally where
  remaining : Option Int
  streamExhausted : Bool := false
  metadata : StoredQueryMeta

namespace Tally

/-- `remaining_records is not None and remaining_records <= 0` -/
def limitReached (tally : Tally) : Bool :=
  match tally.remaining with
  | some remaining => remaining ≤ 0
  | none => false

def count (tally : Tally) : Tally :=
  { tally with
    remaining := tally.remaining.map (· - 1)
    metadata :=
      { tally.metadata with streamedRecords := tally.metadata.streamedRecords + 1 } }

def exhaust (tally : Tally) : Tally := { tally with streamExhausted := true }

def complete (tally : Tally) : Tally :=
  { tally with
    metadata :=
      { tally.metadata with completed := tally.streamExhausted || tally.limitReached } }

end Tally

/-- A generator that passes on rows up to the limit, with what it does to the variables
when the limit is zero from the start, when the rows end, and at last. -/
def limitedRows (onZero onExhausted atLast : Tally → Tally)
    (rows : AsyncIterator τ ε Json) : AsyncIterator (Frame × (Tally × τ)) ε Json :=
  let cleanup (state : Tally × τ) : Tally × τ := (atLast state.1, rows.aclose state.2)
  let pullRow (state : Tally × τ) : Pulled ε Json × (Tally × τ) :=
    match rows.anext state.2 with
    | (.yields row, after) => (.yields row, (state.1.count, after))
    | (.ends, after) => (.ends, (onExhausted state.1, after))
    | (.raises exception, after) => (.raises exception, (state.1, after))
  generator
    { start := fun state => finallyDo cleanup
        (if state.1.limitReached then (.ends, (onZero state.1, state.2)) else pullRow state)
      resume := fun state => finallyDo cleanup
        (if state.1.limitReached then (.ends, state) else pullRow state)
      exit := cleanup }

/-- `counted_rows` -/
def countedRows : AsyncIterator τ ε Json → AsyncIterator (Frame × (Tally × τ)) ε Json :=
  limitedRows Tally.exhaust Tally.exhaust Tally.complete

/-- `iterate_rows` -/
def iterateRows : AsyncIterator τ ε Json → AsyncIterator (Frame × (Tally × τ)) ε Json :=
  limitedRows id id id

/-! ## Envelopes -/

/-- What the client asks of Python's `str` beyond this development: `str(value)` of a
value that is no string, and `str.upper`. -/
structure PythonStr where
  repr : Json → Bytes
  upper : Bytes → Bytes

def plainText : PythonStr := { repr := fun _ => [], upper := id }

structure RecordEnvelope where
  type : Bytes
  record : Json
  raw : Option Json := none

section Envelopes

variable (python : PythonStr)

/-- `to_str` -/
def toStr (value : Option Json) : Option Bytes :=
  let stripped? := match value with
    | none | some .null => none
    | some (.string text) => some (pythonStrip (characters text))
    | some other => some (pythonStrip (characters (python.repr other)))
  match stripped? with
  | none | some [] => none
  | some text => some (utf8 (String.ofList text))

/-- `normalize_record_type` -/
def normalizeRecordType (value : Option Json) : Bytes :=
  match toStr python value with
  | none => utf8 "UNKNOWN"
  | some normalized => python.upper normalized

/-- `to_dict` -/
def toDict (value : Option Json) : Json :=
  match value with
  | some (.object members) => .object members
  | _ => .object []

/-- The body of the loop of `wire_record_envelopes`. -/
def toEnvelope (includeRaw : Bool) (row : Json) : RecordEnvelope :=
  if !row.isObject then
    { type := utf8 "UNKNOWN"
      record := .object []
      raw :=
        if includeRaw then
          some (Json.record
            [("type", Json.text "UNKNOWN"), ("data", .object []), ("raw_row", row)])
        else none }
  else
    let recordType := normalizeRecordType python (row.member? "type")
    let payload := toDict (row.member? "data")
    { type := recordType
      record := payload
      raw :=
        if includeRaw then some (Json.record [("type", .string recordType), ("data", payload)])
        else none }

def wireRecordEnvelopes (includeRaw : Bool) (rows : AsyncIterator τ ε Json) :
    AsyncIterator (Frame × τ) ε RecordEnvelope :=
  forwarding (fun row => .ok (toEnvelope python includeRaw row)) rows

/-- The decoder may raise. -/
def decodeRecordEnvelopes {β : Type} (decodeEnvelope : RecordEnvelope → Except ε β)
    (envelopes : AsyncIterator τ ε RecordEnvelope) : AsyncIterator (Frame × τ) ε β :=
  forwarding decodeEnvelope envelopes

end Envelopes

end JVLinkServer.Client
