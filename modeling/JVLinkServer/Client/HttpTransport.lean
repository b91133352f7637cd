import JVLinkServer.Client.Errors
import JVLinkServer.Client.Fanout

namespace JVLinkServer.Client

open AsyncGenerators

/-! # The streaming requests of the transport

`_fetch_and_parse_stream` reads a response up to its metadata line and returns a
generator that reads the other lines.
-/

/-- A response, as far as it can be read: the bytes of its body for `aread`, its lines
for `aiter_lines`, and the exception after them if they do not simply end. -/
structure HttpResponse where
  status : Nat
  header : String → Option Bytes := fun _ => none
  content : Except HttpxException Bytes := .ok []
  lines : List Bytes := []
  failure : Option HttpxException := none

/-- What sending a request comes to. -/
inductive Exchange
  | fails (exception : HttpxException)
  | responds (response : HttpResponse)

/-- The flags of `close_response`. -/
structure ResponseState where
  entered : Bool := false
  closed : Bool := false

/-- `close_response` -/
def closeResponse (state : ResponseState) : ResponseState :=
  if state.closed || !state.entered then state else { state with closed := true }

/-- `response.raise_for_status` raises nothing. -/
def HttpResponse.isSuccess (response : HttpResponse) : Bool :=
  200 ≤ response.status && response.status ≤ 299

/-! ## The answer of a server that refuses -/

/-- `_parse_retry_after` -/
def parseRetryAfter (header : String → Option Bytes) : Option Int :=
  match header "Retry-After" with
  | some raw => (pythonInt? (characters raw)).filter (0 ≤ ·)
  | none => none

/-- `_parse_optional_int` -/
def parseOptionalInt : Option Json → Option Int
  | some (.integer value) => some value
  | some (.string text) => pythonInt? (characters text)
  | _ => none

/-- The first text that is there and not empty. -/
def firstText (texts : List (Option Bytes)) : Option Bytes :=
  (texts.filterMap id).find? (!·.isEmpty)

/-- `_extract_busy_context` -/
def extractBusyContext (header : String → Option Bytes) (payload : Json) : BusyContext :=
  let session := (payload.member? "session").filter Json.isObject
  if header "X-JVLink-Busy" ≠ some (utf8 "1") ∧ session.isNone then {}
  else
    let ofSession (key : String) : Option Json := session.bind (Json.member? key)
    let textOf (value : Option Json) : Option Bytes := value.bind Json.string?
    let numberOf (name key : String) : Option Int :=
      (parseOptionalInt ((header name).map Json.string)).or (parseOptionalInt (ofSession key))
    { operation := firstText
        [header "X-JVLink-Operation", textOf (payload.member? "operation"),
          textOf (ofSession "operation")]
      path := firstText [header "X-JVLink-Session-Path", textOf (ofSession "path")]
      requestId := firstText
        [header "X-JVLink-Session-Request-Id", textOf (ofSession "request_id")]
      startedAt := numberOf "X-JVLink-Session-Started-At" "started_at"
      elapsedMs := numberOf "X-JVLink-Session-Elapsed-Ms" "elapsed_ms"
      dataspec := textOf (ofSession "dataspec")
      key := textOf (ofSession "key")
      session }

/-- What `parse_http_status_error` returns. -/
structure StatusError where
  message : Bytes
  code : Json
  retryAfter : Option Int
  busyContext : BusyContext

section Parsing

variable (python : PythonStr) (library : PythonLibrary)

/-- `parse_http_status_error` -/
def parseHttpStatusError (response : HttpResponse) : Except PythonException StatusError :=
  let refused : StatusError :=
    { message := utf8 "HTTP communication error (status " ++ decimalNat response.status ++ utf8 ")"
      code := .integer response.status
      retryAfter := parseRetryAfter response.header
      busyContext := extractBusyContext response.header .null }
  match response.content with
  | .error exception => if exception.isStreamError then .ok refused else .error (.httpx exception)
  | .ok text =>
      let decoded := library.decodeReplacing text
      let refused :=
        if decoded.isEmpty then refused
        else { refused with message := refused.message ++ utf8 ": " ++ decoded }
      match library.loadsBytes text with
      | .error (.jsonDecodeError _) | .error .unicodeDecodeError => .ok refused
      | .error exception => .error (.builtin exception)
      | .ok body =>
          let refused := { refused with busyContext := extractBusyContext response.header body }
          match body.member? "error" with
          | some (.object members) =>
              let info := Json.object members
              .ok { refused with
                message :=
                  match info.member? "message" with
                  | some (.string message) =>
                      if pythonStrip (characters message) = [] then refused.message
                      else utf8 "JVLinkServer error: " ++ message
                  | _ => refused.message
                code :=
                  match info.member? "code" with
                  | some code => if isInt code then code else refused.code
                  | none => refused.code }
          | _ => .ok refused

/-- The exception of a status that is no success. -/
def statusException (response : HttpResponse) : PythonException :=
  match parseHttpStatusError library response with
  | .error exception => exception
  | .ok refused =>
      match buildErrorForCode library refused.code refused.message .serverError
          refused.retryAfter refused.busyContext with
      | .ok error => .jvLink { error with cause := some (.httpStatusError response.status) }
      | .error exception => .builtin exception

/-! ## The lines of a stream -/

/-- A value in a formatted string. -/
def formatted : Json → Bytes
  | .string text => text
  | value => python.repr value

/-- The exception of `{"message": .., "code": ..}`. -/
def streamError (message code : Json) : PythonException :=
  let message := utf8 "JVLinkServer stream error: " ++ formatted python message
  if isInt code then
    match buildErrorForCode library code message .serverError with
    | .ok error => .jvLink error
    | .error exception => .builtin exception
  else .jvLink { cls := .serverError, message, errorCode := code }

/-- A `JVDataError` -/
def dataError (message : Bytes) (cause : Option Cause := none) : PythonException :=
  .jvLink { cls := .dataError, message, cause }

/-- The first line that is not blank, and the lines after it. -/
def readMetadataLine (failure : Option HttpxException) :
    List Bytes → Except PythonException (Bytes × List Bytes)
  | [] =>
      match failure with
      | some exception => .error (.httpx exception)
      | none =>
          .error (dataError (utf8 "Streaming response was empty.") (some .stopAsyncIteration))
  | line :: rest =>
      if pythonStrip (characters line) = [] then readMetadataLine failure rest
      else .ok (line, rest)

/-- An exception of the interpreter while a line is read. -/
def raising {α : Type} : Except BuiltinException α → Except PythonException α
  | .ok value => .ok value
  | .error exception => .error (.builtin exception)

/-- `json.loads` of a line, of which `what` tells what it was. -/
def loadsLine (what : Bytes → Bytes) (line : Bytes) : Except PythonException Json :=
  match library.loads line with
  | .error (.jsonDecodeError message) =>
      .error (dataError (what message) (some .jsonDecodeError))
  | loaded => raising loaded

/-- A stream whose metadata has been read.  For the code -1 it is over. -/
structure Opened where
  metadata : Json
  noData : Bool := false
  lines : List Bytes
  failure : Option HttpxException

/-- What the member `meta` leads to. -/
def openRows (failure : Option HttpxException) (metadata : Json) (lines : List Bytes) :
    Except PythonException Opened := do
  if ← raising (contains "error_code" metadata) then
    let code ← raising (subscript "error_code" metadata)
    if !library.equals code 0 then
      if library.equals code (-1) then
        return { metadata, noData := true, lines, failure }
      let unnamed := utf8 "JVOpen error (code: " ++ formatted python code ++ utf8 ")"
      let message ← raising (getMember "error_message" (.string unnamed) metadata)
      throw (raiseForErrorCode library code (formatted python message))
  return { metadata, lines, failure }

/-- What the metadata line leads to. -/
def openStream (failure : Option HttpxException) (metaData : Json) (lines : List Bytes) :
    Except PythonException Opened := do
  if ← raising (contains "error" metaData) then
    let info ← raising (subscript "error" metaData)
    let message ← raising (getMember "message" (Json.text "Unknown error") info)
    let code ← raising (getMember "code" .null info)
    throw (streamError python library message code)
  if !(← raising (contains "meta" metaData)) then
    throw (dataError (utf8 "Missing 'meta' in streaming response header."))
  openRows python library failure (← raising (subscript "meta" metaData)) lines

/-- The body of the outer `try` once the response is there. -/
def readOpening (response : HttpResponse) : Except PythonException Opened :=
  if response.isSuccess then do
    let (line, rest) ← readMetadataLine response.failure response.lines
    let metaData ← loadsLine library (utf8 "Invalid JSON in metadata line: " ++ ·) line
    openStream python library response.failure metaData rest
  else .error (statusException library response)

/-- The clauses of the outer `try`. -/
def convertException : PythonException → PythonException
  | .httpx exception =>
      let converted (cls : ErrorClass) (message : Bytes) : PythonException :=
        .jvLink { cls, message, cause := some (.httpx exception) }
      if exception.isTimeout then
        converted .timeoutError (utf8 "HTTP request timeout - server may be overloaded")
      else if exception.kind = .connectError then
        converted .connectionError
          (utf8 "HTTP connection failed - JVLinkServer not responding: " ++ exception.message)
      else if exception.isNetworkError then
        converted .connectionError
          (utf8 "HTTP network error - Python <-> C++ communication failed: "
            ++ exception.message)
      else .httpx exception
  | .builtin (.jsonDecodeError message) =>
      dataError (utf8 "Invalid JSON response from JVLinkServer: " ++ message)
        (some .jsonDecodeError)
  | exception => exception

/-- `_fetch_and_parse_stream`, up to what it returns or raises. -/
def fetchAndParseStream : Exchange → Except PythonException Opened × ResponseState
  | .fails exception => (.error (convertException (.httpx exception)), closeResponse {})
  | .responds response =>
      let entered : ResponseState := { entered := true }
      match readOpening python library response with
      | .ok opened => (.ok opened, if opened.noData then closeResponse entered else entered)
      | .error exception => (.error (convertException exception), closeResponse entered)

/-! ## The generators -/

/-- The state of `record_generator`: the lines it has not read. -/
structure LineStream where
  lines : List Bytes
  failure : Option HttpxException
  response : ResponseState

def LineStream.close (stream : LineStream) : LineStream :=
  { stream with response := closeResponse stream.response }

/-- The start of a line, for the message about it. -/
def linePreview (line : Bytes) : Bytes :=
  let shown := (characters line).take 100
  utf8 (String.ofList shown) ++ if 100 < (characters line).length then utf8 "..." else []

/-- A line that is not empty. -/
def readRow (line : Bytes) : Except PythonException Json :=
  let what (message : Bytes) :=
    utf8 "Invalid JSON in data stream: " ++ message ++ utf8 ". Line preview: " ++
      linePreview line
  match loadsLine library what line with
  | .error exception => .error exception
  | .ok payload =>
      match payload.member? "error" with
      | none => .ok payload
      | some (.object members) =>
          let info := Json.object members
          .error (streamError python library
            ((info.member? "message").getD (Json.text "Unknown error"))
            ((info.member? "code").getD .null))
      | some _ =>
          .error (.jvLink
            { cls := .serverError, message := utf8 "JVLinkServer stream error: Unknown error" })

/-- The loop of `record_generator` up to its next `yield`. -/
def nextRow (failure : Option HttpxException) :
    List Bytes → Pulled PythonException Json × List Bytes
  | [] =>
      match failure with
      | some exception => (.raises (.httpx exception), [])
      | none => (.ends, [])
  | line :: rest =>
      if line.isEmpty then nextRow failure rest
      else
        match readRow python library line with
        | .ok row => (.yields row, rest)
        | .error exception => (.raises exception, rest)

/-- The body of `record_generator`, from its beginning or from a `yield`. -/
def LineStream.next (stream : LineStream) : Pulled PythonException Json × LineStream :=
  let read := nextRow python library stream.failure stream.lines
  finallyDo LineStream.close (read.1, { stream with lines := read.2 })

/-- `record_generator`, on the lines. -/
def lineGenerator : AsyncIterator (Frame × LineStream) PythonException Json :=
  generator
    { start := LineStream.next python library
      resume := LineStream.next python library
      exit := LineStream.close }

/-- `empty_generator` -/
def emptyGenerator : AsyncIterator (Frame × LineStream) PythonException Json :=
  generator { start := fun stream => (.ends, stream), resume := fun stream => (.ends, stream)
              exit := id }

def Opened.rows (opened : Opened) : AsyncIterator (Frame × LineStream) PythonException Json :=
  if opened.noData then emptyGenerator else lineGenerator python library

/-- The loop of `filtered` over a generator of rows. -/
def filteredNextOver {σ ε : Type} (rows : AsyncIterator σ ε Json) :
    (fuel : Nat) → σ → Pulled ε Json × σ
  | 0, state => (.ends, state)
  | fuel + 1, state =>
      match rows.anext state with
      | (.yields row, after) =>
          if keepsRecord row then (.yields row, after) else filteredNextOver rows fuel after
      | (.ends, after) => (.ends, after)
      | (.raises exception, after) => (.raises exception, after)

/-- `filtered` over a generator that has at most so many rows left. -/
def filteredOver {σ ε : Type} (rows : AsyncIterator σ ε Json) (left : σ → Nat) :
    AsyncIterator (Frame × σ) ε Json :=
  let next (state : σ) := filteredNextOver rows (left state + 1) state
  generator { start := next, resume := next, exit := id }

/-! ## The requests -/

/-- The settings of `_call_with_busy_retry` that are in effect. -/
structure BusyRetry where
  enabled : Bool
  maxRetries : Int
  backoffMs : Int
  respectRetryAfter : Bool

namespace BusyRetry

variable (retry : BusyRetry)

/-- The attempts after the first. -/
def extra : Nat := if retry.enabled then retry.maxRetries.toNat else 0

def delayMs (retryAfter : Option Int) : Int :=
  match retryAfter with
  | some seconds => if retry.respectRetryAfter then seconds * 1000 else retry.backoffMs
  | none => retry.backoffMs

end BusyRetry

/-- The least number of milliseconds that is no float as a number of seconds. -/
def overflowMs : Nat := 1000 * (2 ^ 1024 - 2 ^ 970)

/-- `asyncio.sleep(delay_ms / 1000)` raises `OverflowError`. -/
def sleepOverflows (delayMs : Int) : Bool := overflowMs ≤ delayMs.natAbs

/-- `_call_with_busy_retry`, with the responses of all attempts. -/
def callWithBusyRetry (retry : BusyRetry)
    (call : Nat → Except PythonException Opened × ResponseState) :
    (left : Nat) → (attempt : Nat) → Except PythonException Opened × List ResponseState
  | left, attempt =>
      match call attempt with
      | (.error (.jvLink error), response) =>
          match left with
          | 0 => (.error (.jvLink error), [response])
          | left + 1 =>
              if error.cls = .busyError then
                if sleepOverflows (retry.delayMs error.retryAfter) then
                  (.error (.builtin .overflowError), [response])
                else
                  let (outcome, responses) := callWithBusyRetry retry call left (attempt + 1)
                  (outcome, response :: responses)
              else (.error (.jvLink error), [response])
      | (outcome, response) => (outcome, [response])

/-- A request on what the server makes of each attempt; nothing is sent before
`start`. -/
def request (started : Bool) (retry : BusyRetry) (server : Nat → Exchange) :
    Except PythonException Opened × List ResponseState :=
  if started then
    callWithBusyRetry retry (fetchAndParseStream python library ∘ server) retry.extra 0
  else
    (.error (.jvLink
      { cls := .connectionError, message := utf8 "Client not started. Call start() first." }), [])

/-! ## The queries -/

/-- The settings of the server's own retries. -/
structure FileRetry where
  autoRetry : Bool
  maxRetries : Int
  retryDelayMs : Int

def storedPayload (files : FileRetry) (stored : StoredRequest) : Json :=
  let fromDate :=
    match stored.toDate with
    | none | some "" => utf8 stored.fromDatetime
    | some toDate => utf8 stored.fromDatetime ++ utf8 "-" ++ utf8 toDate
  Json.record
    ([("data_spec", Json.text stored.dataspec), ("from_date", .string fromDate),
      ("option", .integer stored.option), ("max_records", .integer stored.maxRecords),
      ("auto_retry", .bool files.autoRetry), ("max_retries", .integer files.maxRetries),
      ("retry_delay_ms", .integer files.retryDelayMs)] ++
      match stored.recordTypes with
      | some recordTypes => [("record_types", .array (recordTypes.map Json.text))]
      | none => [])

/-- What a server makes of a payload sent to an endpoint, for each attempt. -/
abbrev Server := String → Json → Nat → Exchange

/-- `query_stored`, up to what it returns or raises. -/
def queryStored (started : Bool) (retry : BusyRetry) (files : FileRetry) (server : Server)
    (stored : StoredRequest) : Except PythonException Opened × List ResponseState :=
  request python library started retry (server "/query/stored" (storedPayload files stored))

def realtimePayload (dataspec key : String) : Json :=
  Json.record [("dataspec", Json.text dataspec), ("key", Json.text key)]

/-- `query_realtime`, up to what it returns or raises. -/
def queryRealtime (started : Bool) (retry : BusyRetry) (server : Server) (dataspec key : String) :
    Except PythonException Opened × List ResponseState :=
  request python library started retry
    (server "/query/realtime" (realtimePayload dataspec key))

/-- The generators before they are iterated over. -/
def Opened.start (opened : Opened) : Frame × (Frame × LineStream) :=
  (.created, (.created,
    { lines := opened.lines, failure := opened.failure
      response := { entered := true, closed := opened.noData } }))

/-- The iterator that a query returns. -/
def Opened.records (opened : Opened) (excludeDeletions : Bool) :
    AsyncIterator (Frame × (Frame × LineStream)) PythonException Json :=
  if excludeDeletions then
    filteredOver (opened.rows python library) fun stream => stream.2.lines.length
  else (opened.rows python library).beside

end Parsing

end JVLinkServer.Client
