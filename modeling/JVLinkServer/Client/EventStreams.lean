import JVLinkServer.Client.FailingIterators
import JVLinkServer.Coroutines
import JVLinkServer.Relays

namespace JVLinkServer.Client

open AsyncGenerators Coroutines Effects

/-! # Event streams and watches

The generator of the transport owns the SSE response.  Those of the client pass its events
on, and a watch closes the one that it gave out.
-/

/-- What the request for the stream and the reading of its response come to: the status,
the lines, what comes up after them, and what comes up when the response is closed. -/
structure EventSource where
  clientOpen : Bool := true
  request : Except (Raised HttpxException) Nat := .ok 200
  ending : Option (Raised HttpxException) := none
  closing : Option (Raised HttpxException) := none

/-- The state of `stream_events`: the lines it has not read. -/
structure EventStream where
  source : EventSource
  lines : List Bytes
  eventType : Option Bytes := none
  response : ResponseState := {}

abbrev EventPull (α : Type) := Pulled (Raised PythonException) α

def raisedHttpx : Raised HttpxException → Raised PythonException
  | .error exception => .error (.httpx exception)
  | .cancelled => .cancelled

/-- `str.strip` -/
def strip (text : Bytes) : Bytes := utf8 (String.ofList (pythonStrip (characters text)))

section Transport

variable (library : PythonLibrary)

/-- The loop over the lines up to its next `yield`, with the lines and the event type that
it leaves. -/
def nextEvent (ending : Option (Raised HttpxException)) :
    List Bytes → Option Bytes → EventPull Json × List Bytes × Option Bytes
  | [], eventType =>
      match ending with
      | some raised => (.raises (raisedHttpx raised), [], eventType)
      | none => (.ends, [], eventType)
  | line :: lines, eventType =>
      if line.isEmpty then nextEvent ending lines eventType
      else if utf8 "event:" <+: line then nextEvent ending lines (some (strip (line.drop 6)))
      else if ¬ utf8 "data:" <+: line then nextEvent ending lines eventType
      else if eventType = some (utf8 "connected") then nextEvent ending lines none
      else if eventType = some (utf8 "jvlink_event") then
        match library.loads (strip (line.drop 5)) with
        -- The type is forgotten when the loop goes on.
        | .ok event => (.yields event, lines, none)
        | .error (.jsonDecodeError _) => nextEvent ending lines none
        | .error exception => (.raises (.error (.builtin exception)), lines, eventType)
      else nextEvent ending lines eventType

/-- The response is marked as closed before the closing is awaited. -/
def EventStream.close (stream : EventStream) : EventStream :=
  { stream with response := { stream.response with closed := true } }

/-- The end of `async with client.stream(..)`. -/
def leaveResponse : EventPull Json × EventStream → EventPull Json × EventStream
  | (.yields event, stream) => (.yields event, stream)
  | (pulled, stream) =>
      (match stream.source.closing with
        | some raised => .raises (raisedHttpx raised)
        | none => pulled, stream.close)

/-- The clauses of `stream_events`. -/
def convertEventException : EventPull Json → EventPull Json
  | .raises (.error (.httpx exception)) =>
      let converted (cls : ErrorClass) (message : Bytes) : EventPull Json :=
        .raises (.error (.jvLink { cls, message, cause := some (.httpx exception) }))
      if exception.isTimeout then converted .timeoutError (utf8 "Event stream timeout")
      else if exception.kind = .connectError then
        converted .connectionError (utf8 "Event stream connection failed: " ++ exception.message)
      else if exception.isNetworkError then
        converted .connectionError (utf8 "Event stream network error: " ++ exception.message)
      else if exception.kind = .streamClosed then .ends
      else .raises (.error (.httpx exception))
  | pulled => pulled

/-- The body of `stream_events` from a `yield`. -/
def EventStream.next (stream : EventStream) : EventPull Json × EventStream :=
  let (pulled, lines, eventType) := nextEvent library stream.source.ending stream.lines
    stream.eventType
  let (pulled, stream) := leaveResponse (pulled, { stream with lines, eventType })
  (convertEventException pulled, stream)

/-- The body of `stream_events` from its beginning. -/
def EventStream.begin (stream : EventStream) : EventPull Json × EventStream :=
  if stream.source.clientOpen then
    match stream.source.request with
    | .error raised => (convertEventException (.raises (raisedHttpx raised)), stream)
    | .ok status =>
        let entered := { stream with response := { entered := true } }
        if status = 200 then entered.next library
        else
          let (pulled, left) := leaveResponse
            (.raises (.error (.jvLink
              { cls := .serverError
                message := utf8 "Failed to connect to event stream: " ++ decimalNat status })),
              entered)
          (convertEventException pulled, left)
  else
    (.raises (.error (.jvLink
      { cls := .connectionError, message := utf8 "Client not started. Call start() first." })),
      stream)

/-- `HttpTransport.stream_events` -/
def HttpTransport.streamEvents :
    AsyncIterator (Frame × EventStream) (Raised PythonException) Json :=
  generator
    { start := EventStream.begin library
      resume := EventStream.next library
      exit := EventStream.close }

end Transport

/-! ## Decoding -/

structure JVLinkEvent where
  type : Bytes
  param : Option Bytes
  timestamp : Option Int
  deriving DecidableEq, Repr

section Decoding

variable (python : PythonStr) (library : PythonLibrary)

/-- `to_int` -/
def toInt (value : Json) : Option Int :=
  (toStr python (some value)).bind fun normalized => pythonInt? (characters normalized)

/-- `decode_event` -/
def decodeEvent (payload : Json) : Except PythonException (Option JVLinkEvent) := do
  let type ← raising (getMember "type" .null payload)
  match toStr python (some type) with
  | none => return none
  | some type =>
      let param ← raising (getMember "param" .null payload)
      let timestamp ← raising (getMember "timestamp" .null payload)
      return some { type, param := toStr python (some param), timestamp := toInt python timestamp }

/-! ## The streams of the client -/

def linesLeft (outer : Frame × EventStream) : Nat := outer.2.lines.length

/-- `stream_events_raw` -/
def streamEventsRaw :
    AsyncIterator (Frame × (Frame × EventStream)) (Raised PythonException) Json :=
  relaying (fun event => .ok (some event)) (HttpTransport.streamEvents library) linesLeft

/-- `decode_event` in a loop that awaits. -/
def decodeItem (event : Json) : Except (Raised PythonException) (Option JVLinkEvent) :=
  synchronous (decodeEvent python event)

/-- `stream_events` -/
def streamEvents :
    AsyncIterator (Frame × (Frame × (Frame × EventStream))) (Raised PythonException)
      JVLinkEvent :=
  relaying (decodeItem python) (streamEventsRaw library) fun outer => linesLeft outer.2

end Decoding

/-! ## Watches -/

/-- A body uses the stream as it likes and ends as it likes. -/
structure WatchBody where
  calls : List AsyncIterator.Call
  outcome : Except (Raised PythonException) Unit := .ok ()

/-- What the awaits of a watch come to, apart from those of the stream, and how many of the
generators that its stream has dropped the event loop has closed when the last one ends. -/
structure WatchOutcomes where
  start : Except (Raised PythonException) Unit := .ok ()
  closing : Except (Raised PythonException) Unit := .ok ()
  stop : Except (Raised PythonException) Unit := .ok ()
  collected : Nat := 2

/-- The stream and the number of calls of `stop_event_watch`. -/
structure WatchState (σ : Type) where
  stream : σ
  stopCalls : Nat := 0

section Watches

variable {σ α : Type} (outcomes : WatchOutcomes) (collect : Nat → σ → σ)

/-- `stop_event_watch`.  The event loop goes on while its request is awaited. -/
def stopEventWatch : Coroutine (WatchState σ) PythonException Unit := do
  update fun state =>
    { stream := collect outcomes.collected state.stream, stopCalls := state.stopCalls + 1 }
  comesTo outcomes.stop

/-- The clause that `async with` runs on every way out. -/
def endWatch (stream : AsyncIterator σ (Raised PythonException) α) :
    Coroutine (WatchState σ) PythonException Unit := do
  let closeError ← catchingAll
    (do
      update fun state => { state with stream := stream.aclose state.stream }
      comesTo outcomes.closing
      return none)
    fun exception => return some exception
  catchingAll (stopEventWatch outcomes collect) fun exception =>
    match closeError with
    | some closeError => fail closeError
    | none => fail exception
  match closeError with
  | some closeError => fail closeError
  | none => pure ()

/-- A watch around a body. -/
def watch (stream : AsyncIterator σ (Raised PythonException) α) (body : WatchBody) :
    Coroutine (WatchState σ) PythonException Unit := do
  comesTo outcomes.start
  finishing
    (do
      update fun state => { state with stream := stream.after body.calls state.stream }
      comesTo body.outcome)
    (endWatch outcomes collect stream)

end Watches

section Collecting

variable (library : PythonLibrary)

/-- The generator that `stream_events_raw` drops. -/
def collectRaw : Nat → Frame × (Frame × EventStream) → Frame × (Frame × EventStream) :=
  finalized (HttpTransport.streamEvents library) fun _ stream => stream

def collectDecoded : Nat → Frame × (Frame × (Frame × EventStream)) →
    Frame × (Frame × (Frame × EventStream)) :=
  finalized (streamEventsRaw library) (collectRaw library)

end Collecting

/-- `watch_events_raw` -/
def watchEventsRaw (library : PythonLibrary) (outcomes : WatchOutcomes) (body : WatchBody) :
    Coroutine (WatchState (Frame × (Frame × EventStream))) PythonException Unit :=
  watch outcomes (collectRaw library) (streamEventsRaw library) body

/-- `watch_events` -/
def watchEvents (python : PythonStr) (library : PythonLibrary) (outcomes : WatchOutcomes)
    (body : WatchBody) :
    Coroutine (WatchState (Frame × (Frame × (Frame × EventStream)))) PythonException Unit :=
  watch outcomes (collectDecoded library) (streamEvents python library) body

end JVLinkServer.Client
