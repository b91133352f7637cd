import JVLinkServer.Core.StreamPhases
import JVLinkServer.JsonLines
import JVLinkServer.Worker.StreamWrites

namespace JVLinkServer.Worker

open Effects JVLinkServer.Core

/-! # The stored stream

The content provider of `/query/stored` runs a query whose callbacks write to the sink
of the response.  The connection is an environment with a hidden state `ν`, in which
the heartbeat thread runs as well.
-/

/-- The parser of records returns a type and data, nothing, or throws. -/
structure RecordParser where
  parseRecord : Bytes → Except String (Option (Bytes × Json))
  oneLine : ∀ record type data, parseRecord record = .ok (some (type, data)) → data.OneLine

/-- How the heartbeat thread has ended, if it has. -/
inductive HeartbeatEnd
  | beating
  | unwritable
  | failed
  deriving DecidableEq, Repr

/-- `isWritable` waits for the socket, and a slow client may let it wait in vain.  `heartbeats`
are the newlines since it was last asked, and what came after them. -/
structure Connection (ν : Type) where
  isWritable : ν → Bool × ν
  write : Bytes → ν → Bool × ν
  heartbeats : ν → (Nat × HeartbeatEnd) × ν
  resetRequested : ν → Bool × ν

/-- `ok` is a local of the sink, false from the first write that fails.  `out`, `givenUp`,
`resetSeen`, `errorLine` and `finished` are records: what has been written, that a poll found the
client taken for disconnected or that the sink was not writable for a record or an error, that a
poll saw the request of a reset, that an error was written, and that the last chunk was. -/
structure StoredStream (ν : Type) where
  network : ν
  ok : Bool := true
  clientDisconnected : Bool := false
  heartbeatStopped : Bool := false
  out : List Bytes := []
  givenUp : Bool := false
  resetSeen : Bool := false
  errorLine : Bool := false
  finished : Bool := false

abbrev StreamAction (ν α : Type) := EStateM Exception (StoredStream ν) α

section Sink

variable {ν α : Type} (connection : Connection ν)

def askNetwork (question : ν → α × ν) : StreamAction ν α :=
  fun stream => .ok (question stream.network).1
    { stream with network := (question stream.network).2 }

/-- A sink that is not ok any more writes no newline. -/
def StoredStream.beaten (stream : StoredStream ν) (count : Nat) (ended : HeartbeatEnd) :
    StoredStream ν :=
  if stream.heartbeatStopped then stream
  else
    let written := if stream.ok then count else 0
    let lost := ended ≠ .beating || written ≠ count
    { stream with
      ok := stream.ok && ended ≠ .failed
      out := stream.out ++ List.replicate written [newline]
      clientDisconnected := stream.clientDisconnected || lost
      heartbeatStopped := lost }

/-- What the heartbeat thread does before the next step of this one. -/
def heartbeat : StreamAction ν Unit := do
  let (count, ended) ← askNetwork connection.heartbeats
  update fun stream => stream.beaten count ended

def noteGivenUp : StreamAction ν Unit := update fun stream => { stream with givenUp := true }

def noteClientDisconnected : StreamAction ν Unit :=
  update fun stream => { stream with clientDisconnected := true }

def sinkIsWritable : StreamAction ν Bool := do
  heartbeat connection
  let writable ← askNetwork connection.isWritable
  if !writable then noteGivenUp
  return writable

/-- `sink.write`, of which the successful ones go on record. -/
def sinkWrite (data : Bytes) : StreamAction ν Bool := do
  if !(← read).ok then return false
  let written ← askNetwork (connection.write data)
  if written then update fun stream => { stream with out := stream.out ++ [data] }
  else update fun stream => { stream with ok := false }
  return written

/-- `sink.done`, which marks the end unless a write has failed. -/
def sinkDone : StreamAction ν Unit := do
  if (← read).ok then
    let marked ← askNetwork (connection.write (utf8 "0\r\n"))
    let ended ← askNetwork (connection.write (utf8 "\r\n"))
    update fun stream => { stream with ok := marked && ended }
  update fun stream => { stream with finished := stream.ok }

/-- The lock lets the heartbeat thread in before the write. -/
def safeWrite (data : Bytes) : StreamAction ν Bool := do
  heartbeat connection
  sinkWrite connection data

/-- The two writes of a metadata line or a record. -/
def writeLine (body : Bytes) : StreamAction ν Bool := do
  if ← safeWrite connection body then safeWrite connection [newline] else return false

def disconnect : StreamAction ν α := do
  noteClientDisconnected
  EStateM.throw .clientDisconnected

/-! ## The callbacks -/

def streamErrorJson (message : String) (code : Int) : Json :=
  Json.record [("error",
    Json.record [("message", Json.text message), ("code", .integer code)])]

def metaJson (result : JVQueryResult) : Json :=
  if result.success then
    Json.record [("meta",
      Json.record [("read_count", .integer result.readCount),
        ("download_count", .integer result.downloadCount),
        ("last_file_timestamp", Json.text result.lastFileTimestamp)])]
  else streamErrorJson result.errorMessage result.errorCode

def recordJson (type : Bytes) (data : Json) : Json :=
  Json.record [("type", .string type), ("data", data)]

/-- `meta_callback` -/
def streamMeta (result : JVQueryResult) : StreamAction ν Unit := do
  match (metaJson result).dump with
  | .error message => EStateM.throw (.other message)
  | .ok body =>
      if !(← writeLine connection body) then disconnect
      if !result.success then update fun stream => { stream with errorLine := true }

/-- `record_callback`, which swallows what the parser and the printer throw. -/
def streamRecord (parser : RecordParser) (record : Bytes) : StreamAction ν Unit := do
  if !(← sinkIsWritable connection) then disconnect
  match parser.parseRecord record with
  | .error _ | .ok none => return ()
  | .ok (some (type, data)) =>
      match (recordJson type data).dump with
      | .error _ => return ()
      | .ok body => if !(← writeLine connection body) then disconnect

/-- The cancel predicate. -/
def cancelRequested : StreamAction ν Bool := do
  heartbeat connection
  if (← read).clientDisconnected then
    noteGivenUp
    return true
  let reset ← askNetwork connection.resetRequested
  if reset then update fun stream => { stream with resetSeen := true }
  return reset

def streamClient (parser : RecordParser) : StreamClient (StoredStream ν) where
  recordCallback := streamRecord connection parser
  metaCallback := streamMeta connection
  cancelRequested := cancelRequested connection

/-- `writeStreamErrorLine`.  The heartbeat thread is kept out of the line. -/
def writeStreamErrorLine (message : String) (code : Int) : StreamAction ν Unit := do
  if !(← sinkIsWritable connection) then return
  match (streamErrorJson message code).dump with
  | .error message => EStateM.throw (.other message)
  | .ok line =>
      if !(← sinkIsWritable connection) then return
      let written ← sinkWrite connection line
      if written then update fun stream => { stream with errorLine := true }
      let _ ← sinkWrite connection [newline]

/-! ## The content provider -/

variable {κ : Type} (jv : JVLink κ) (parser : RecordParser) (query : StoredQuery)

/-- The catch clauses around the query. -/
def reportException (exception : Exception) : Action κ (StoredStream ν) (Option StreamEnd) :=
  match exception with
  | .clientDisconnected | .jvOperationCanceled _ => return none
  | .jvStreamRead code message => do
      callBack (writeStreamErrorLine connection
        ("Streaming JV read error in /query/stored: " ++ message) code)
      return none
  | .jvLinkFatal message => do
      callBack (writeStreamErrorLine connection ("JV-Link became unavailable: " ++ message) (-50301))
      return none
  | .comTaskTimeout taskName => do
      callBack (writeStreamErrorLine connection
        ("Streaming error in /query/stored: COM task timed out: " ++ taskName) (-500))
      return none
  | .other message => do
      callBack (writeStreamErrorLine connection ("Streaming error in /query/stored: " ++ message)
        (-500))
      return none
  | .stillRunning => EStateM.throw .stillRunning

/-- The provider up to `sink.done()`: with the reason why the query returned, or `none` when it
threw. -/
def provideStored (fuel : Nat) : Action κ (StoredStream ν) (Option StreamEnd) :=
  handle (do return some (← queryStored jv (streamClient connection parser) query fuel))
    (reportException connection)

def finishStored (fuel : Nat) : Action κ (StoredStream ν) (Option StreamEnd) := do
  let reason ← provideStored connection jv parser query fuel
  -- The heartbeat thread is joined on every way here.
  callBack (do heartbeat connection; sinkDone connection)
  return reason

end Sink

end JVLinkServer.Worker
