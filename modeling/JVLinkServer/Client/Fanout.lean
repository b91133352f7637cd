import JVLinkServer.Client.StoredQuery

namespace JVLinkServer.Client

open AsyncGenerators

/-! # Queries over several dataspecs

`combined_rows` asks the transport for one dataspec after the other, each for what the
limit still allows.
-/

/-- `DATASPEC_TO_RECORDS` -/
def dataspecToRecords : List (String × List String) :=
  [
    ("TOKU", ["TK"]),
    ("RACE", ["RA", "SE", "HR", "H1", "H6", "O1", "O2", "O3", "O4", "O5", "O6", "WF", "JG"]),
    ("DIFF", ["UM", "KS", "CH", "BR", "BN", "RC", "RA", "SE"]),
    ("DIFN", ["UM", "KS", "CH", "BR", "BN", "RC", "RA", "SE"]),
    ("BLOD", ["HN", "SK", "BT"]),
    ("BLDN", ["HN", "SK", "BT"]),
    ("MING", ["DM", "TM"]),
    ("SNAP", ["CK"]),
    ("SNPN", ["CK"]),
    ("SLOP", ["HC"]),
    ("YSCH", ["YS"]),
    ("HOSE", ["HS"]),
    ("HOSN", ["HS"]),
    ("HOYU", ["HY"]),
    ("COMM", ["CS"]),
    ("WOOD", ["WC"]),
    ("TCOV", ["UM", "CH", "BR", "BN", "RC", "RA", "SE"]),
    ("TCVN", ["UM", "CH", "BR", "BN", "RC", "RA", "SE"]),
    ("RCOV", ["UM", "KS", "CH", "BR", "BN", "RC", "RA", "SE"]),
    ("RCVN", ["UM", "KS", "CH", "BR", "BN", "RC", "RA", "SE"]),
    ("0B12", ["RA", "SE", "HR"]),
    ("0B15", ["RA", "SE", "HR"]),
    ("0B30", ["O1", "O2", "O3", "O4", "O5", "O6"]),
    ("0B31", ["O1"]),
    ("0B32", ["O2"]),
    ("0B33", ["O3"]),
    ("0B34", ["O4"]),
    ("0B35", ["O5"]),
    ("0B36", ["O6"]),
    ("0B20", ["H1", "H6"]),
    ("0B11", ["WH"]),
    ("0B14", ["WE", "AV", "JC", "TC", "CC"]),
    ("0B16", ["WE", "AV", "JC", "TC", "CC"]),
    ("0B13", ["DM"]),
    ("0B17", ["TM"]),
    ("0B41", ["O1"]),
    ("0B42", ["O2"]),
    ("0B51", ["WF"])
  ]

/-- What `validate_stored_query_input` returns. -/
structure StoredQueryInput where
  dataspec : String
  dataspecs : List String
  fromDatetime : String
  toDate : Option String := none
  recordTypes : Option (List String) := none
  distinct : dataspecs.Nodup

/-- The arguments of `HttpTransport.query_stored`, without the settings of its retries. -/
structure StoredRequest where
  dataspec : String
  fromDatetime : String
  option : Int
  maxRecords : Int
  toDate : Option String
  recordTypes : Option (List String)
  excludeDeletions : Bool
  deriving DecidableEq

/-- `HttpTransport.query_stored` -/
abbrev Transport (ε : Type) := StoredRequest → Except ε (Answer ε)

/-- The arguments of `query_stored_raw` after their validation. -/
structure StoredArguments where
  input : StoredQueryInput
  option : Int
  maxRecords : Int
  excludeDeletions : Bool := false

namespace StoredArguments

variable (arguments : StoredArguments)

/-- The record types asked of a dataspec: those of the filter that it has. -/
def specRecordTypes (spec : String) : Option (List String) :=
  arguments.input.recordTypes.map
    (·.filter fun recordType => ((dataspecToRecords.lookup spec).getD []).contains recordType)

def effectiveSpecs : List String :=
  arguments.input.dataspecs.filter fun spec => arguments.specRecordTypes spec != some []

/-- `remaining_records` before the first row. -/
def limit : Option Int :=
  if arguments.maxRecords < 0 then none else some arguments.maxRecords

def request (spec : String) (remaining : Option Int) : StoredRequest where
  dataspec := spec
  fromDatetime := arguments.input.fromDatetime
  option := arguments.option
  maxRecords := remaining.getD (-1)
  toDate := arguments.input.toDate
  recordTypes := arguments.specRecordTypes spec
  excludeDeletions := arguments.excludeDeletions

/-- The metadata with an entry for each dataspec that the filter leaves out. -/
def fanoutMeta : StoredQueryMeta :=
  (arguments.input.dataspecs.filter fun spec => arguments.specRecordTypes spec == some []).foldl
    (fun metadata spec => metadata.upsertPerDataspec spec skippedPayload)
    (.base arguments.input.dataspec arguments.input.dataspecs true)

end StoredArguments

variable {ε : Type}

/-- The variables of `combined_rows`.  `requests` and `left` are records: the requests
made so far and the streams of the dataspecs that are done with. -/
structure Fanout (ε : Type) where
  tally : Tally
  allSpecsProcessed : Bool := false
  pending : List String
  requests : List StoredRequest
  left : List (String × RowStream ε) := []
  spec : String
  isFirst : Bool := true
  iterating : Frame := .created
  rows : RowStream ε

namespace Fanout

/-- A call of `iterate_rows`. -/
def anextRow (excludeDeletions : Bool) (state : Fanout ε) : Pulled ε Json × Fanout ε :=
  let pulled := (iterateRows (records excludeDeletions)).anext
    (state.iterating, (state.tally, state.rows))
  (pulled.1,
    { state with iterating := pulled.2.1, tally := pulled.2.2.1, rows := pulled.2.2.2 })

/-- `_merge_stored_meta` and the iterator over the rows of the next dataspec. -/
def turnTo (spec : String) (pending : List String) (request : StoredRequest)
    (answer : Answer ε) (state : Fanout ε) : Fanout ε :=
  { state with
    pending
    tally := { state.tally with metadata := state.tally.metadata.merge spec answer.metadata }
    requests := state.requests ++ [request]
    left := state.left ++ [(state.spec, state.rows)]
    spec := spec
    isFirst := false
    iterating := .created
    rows := answer.stream }

/-- The loops of `combined_rows` up to the next `yield`. -/
def advance (arguments : StoredArguments) (transport : Transport ε) :
    (pending : List String) → Fanout ε → Pulled ε Json × Fanout ε
  | pending, state =>
      match anextRow arguments.excludeDeletions state with
      | (.yields row, after) => (.yields row, { after with pending })
      | (.raises exception, after) => (.raises exception, { after with pending })
      | (.ends, after) =>
          if after.isFirst && after.tally.limitReached then (.ends, { after with pending })
          else
            match pending with
            | [] => (.ends, { after with pending, allSpecsProcessed := true })
            | spec :: rest =>
                if after.tally.limitReached then (.ends, { after with pending })
                else
                  let request := arguments.request spec after.tally.remaining
                  match transport request with
                  | .error exception =>
                      (.raises exception,
                        { after with pending := rest, requests := after.requests ++ [request] })
                  | .ok answer =>
                      advance arguments transport rest (after.turnTo spec rest request answer)

/-- The `finally` of `combined_rows`. -/
def complete (state : Fanout ε) : Fanout ε :=
  { state with
    tally :=
      { state.tally with
        metadata :=
          { state.tally.metadata with
            completed := state.allSpecsProcessed || state.tally.limitReached } } }

end Fanout

/-- `combined_rows` -/
def combinedRows (arguments : StoredArguments) (transport : Transport ε) :
    AsyncIterator (Frame × Fanout ε) ε Json :=
  let next (state : Fanout ε) : Pulled ε Json × Fanout ε :=
    finallyDo Fanout.complete (Fanout.advance arguments transport state.pending state)
  generator { start := next, resume := next, exit := Fanout.complete }

/-! ## The rows of a query -/

/-- What stands behind the envelopes of a query: the rows of one response, of one
dataspec, of several, or none because no dataspec has the record types asked for. -/
inductive QueryRows (ε : Type)
  | realtime (rows : RowStream ε)
  | single (arguments : StoredArguments) (counted : Frame × (Tally × RowStream ε))
  | fanout (arguments : StoredArguments) (transport : Transport ε)
      (combined : Frame × Fanout ε)
  | none (metadata : StoredQueryMeta)

namespace QueryRows

def iterator : AsyncIterator (QueryRows ε) ε Json where
  anext
    | .realtime rows =>
        ((recordGenerator.beside.anext rows).1, .realtime (recordGenerator.beside.anext rows).2)
    | .single arguments counted =>
        (((countedRows (records arguments.excludeDeletions)).anext counted).1,
          .single arguments ((countedRows (records arguments.excludeDeletions)).anext counted).2)
    | .fanout arguments transport combined =>
        (((combinedRows arguments transport).anext combined).1,
          .fanout arguments transport ((combinedRows arguments transport).anext combined).2)
    | .none metadata => (.ends, .none metadata)
  aclose
    | .realtime rows => .realtime (recordGenerator.beside.aclose rows)
    | .single arguments counted =>
        .single arguments ((countedRows (records arguments.excludeDeletions)).aclose counted)
    | .fanout arguments transport combined =>
        .fanout arguments transport ((combinedRows arguments transport).aclose combined)
    | .none metadata => .none metadata

/-- The responses opened so far. -/
def responses : QueryRows ε → List (Response ε)
  | .realtime rows => [rows.response]
  | .single _ counted => [counted.2.2.response]
  | .fanout _ _ combined => combined.2.left.map (·.2.response) ++ [combined.2.rows.response]
  | .none _ => []

/-- The responses of a stored query with their dataspecs. -/
def streams : QueryRows ε → List (String × Response ε)
  | .single arguments counted =>
      arguments.input.dataspecs.map fun spec => (spec, counted.2.2.response)
  | .fanout _ _ combined =>
      combined.2.left.map (fun entry => (entry.1, entry.2.response)) ++
        [(combined.2.spec, combined.2.rows.response)]
  | .realtime _ | .none _ => []

/-- The requests that a query over several dataspecs has made. -/
def requests : QueryRows ε → List StoredRequest
  | .fanout _ _ combined => combined.2.requests
  | .realtime _ | .single _ _ | .none _ => []

def metadata? : QueryRows ε → Option StoredQueryMeta
  | .realtime _ => .none
  | .single _ counted => counted.2.1.metadata
  | .fanout _ _ combined => combined.2.tally.metadata
  | .none metadata => metadata

end QueryRows

/-- `_query_stored_raw_fanout` -/
def queryStoredRawFanout (arguments : StoredArguments) (transport : Transport ε) :
    Except ε (QueryRows ε) :=
  match arguments.effectiveSpecs with
  | [] => .ok (.none { arguments.fanoutMeta with completed := true })
  | first :: pending => do
      let request := arguments.request first arguments.limit
      let answer ← transport request
      return .fanout arguments transport
        (.created,
          { tally :=
              { remaining := arguments.limit
                metadata := arguments.fanoutMeta.merge first answer.metadata }
            pending
            requests := [request]
            spec := first
            rows := answer.stream })

/-- `query_stored_raw`, before the envelopes. -/
def queryStoredRaw (arguments : StoredArguments) (transport : Transport ε) :
    Except ε (QueryRows ε) :=
  match arguments.input.dataspecs with
  | [spec] => do
      let answer ← transport
        { arguments.request spec arguments.limit with
          recordTypes := arguments.input.recordTypes }
      return .single arguments
        (.created,
          ({ remaining := arguments.limit
             metadata := (StoredQueryMeta.base arguments.input.dataspec [spec] false).merge spec
               answer.metadata },
            answer.stream))
  | _ => queryStoredRawFanout arguments transport

/-- `query_realtime_raw`, before the envelopes. -/
def queryRealtimeRaw (answer : Except ε (Answer ε)) : Except ε (QueryRows ε) := do
  return .realtime (← answer).stream

end JVLinkServer.Client
