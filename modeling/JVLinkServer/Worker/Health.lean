import JVLinkServer.Core.JVLinkWrapper
import JVLinkServer.Http.Server
import JVLinkServer.Json
import JVLinkServer.Worker.Session

namespace JVLinkServer.Worker

open JVLinkServer.Core Effects Http

/-! # What the worker says of itself

`/health`, `/session`, and the two refusals of a lock-taking endpoint.  All four
show the active session, and a session shows a header value of its client.
-/

def getApiVersion : String := "1.0.0"

/-- The clocks as a handler reads them: seconds and milliseconds since the epoch,
and seconds of a clock that never stops. -/
structure Clock where
  seconds : Int := 0
  milliseconds : Int := 0
  steady : Int := 0
  deriving DecidableEq, Repr

/-- `wrapper` is what `getHealthSnapshot` answers, if there is a wrapper. -/
structure WorkerServer where
  port : Nat
  wrapper : Option JVLinkHealthSnapshot
  activeSession : SessionSnapshot := {}
  requestIdCounter : UInt64 := 0
  busyRejectionCount : UInt64 := 0
  lastBusyTimestamp : Int := 0
  unavailableRejectionCount : UInt64 := 0
  lastUnavailableTimestamp : Int := 0
  deriving DecidableEq, Repr

/-- What a handler changes. -/
structure Exchange where
  server : WorkerServer
  response : Response := {}
  deriving DecidableEq, Repr

/-- The exception is a `what()`. -/
abbrev Handler (α : Type) := EStateM String Exchange α

def respond (change : Response → Response) : Handler Unit :=
  update fun exchange => { exchange with response := change exchange.response }

def setServer (change : WorkerServer → WorkerServer) : Handler Unit :=
  update fun exchange => { exchange with server := change exchange.server }

def jsonContentType : String := "application/json; charset=utf-8"

/-- `set_content` of a `dump()`, which throws on a string that is not UTF-8. -/
def setJson (value : Json) : Handler Unit :=
  match value.dump with
  | .ok body => respond (·.setContent body jsonContentType)
  | .error what => EStateM.throw what

/-! ## The session -/

def WorkerServer.watchActive (server : WorkerServer) : Bool :=
  match server.wrapper with
  | some health => health.eventWatchActive
  | none => server.activeSession.watchActive

def WorkerServer.session (server : WorkerServer) (clock : Clock) : SessionSnapshot :=
  getSessionSnapshot server.activeSession clock.seconds server.watchActive

def bytesOrNull (value : Bytes) : Json := if value.isEmpty then .null else .string value

def textOrNull (value : String) : Json := if value.isEmpty then .null else .text value

def timeOrNull (value : Int) : Json := if 0 < value then .integer value else .null

def SessionSnapshot.json (snapshot : SessionSnapshot) : Json :=
  .record
    [("busy", .bool snapshot.busy),
     ("operation", textOrNull snapshot.operation),
     ("path", textOrNull snapshot.path),
     ("dataspec", textOrNull snapshot.dataspec),
     ("key", textOrNull snapshot.key),
     ("request_id", bytesOrNull snapshot.requestId),
     ("remote_addr", textOrNull snapshot.remoteAddr),
     ("started_at", timeOrNull snapshot.startedAt),
     ("elapsed_ms", .integer (if snapshot.busy then snapshot.elapsedMs else 0)),
     ("watch_active", .bool snapshot.watchActive)]

def WorkerServer.buildSessionJson (server : WorkerServer) (clock : Clock) : Json :=
  (server.session clock).json

section Handlers

variable (clock : Clock) (request : Request)

def nextRequestId : Handler Bytes := do
  setServer fun server => { server with requestIdCounter := server.requestIdCounter + 1 }
  let server := (← read).server
  return utf8 "req-" ++ decimal clock.milliseconds ++ utf8 "-" ++
    decimal server.requestIdCounter.toNat

/-- The client's header value, or a generated one. -/
def ensureRequestId : Handler Bytes := do
  let value := request.headers.value "X-Request-Id"
  let requestId ← (if value.isEmpty then nextRequestId clock else pure value)
  respond (·.setHeader "X-Request-Id" requestId)
  return requestId

def errorJson (message : String) : Json :=
  .record [("error", .record [("message", .text message)])]

/-- A `catch` clause that answers 500. -/
def answer500 (message : String) : Handler Unit := do
  respond fun response => { response with status := 500 }
  setJson (errorJson message)

/-! ## Reports -/

def handleSession : Handler Unit :=
  handle
    (do
      let _ ← ensureRequestId clock request
      setJson ((← read).server.buildSessionJson clock))
    answer500

def comWorkerJson (worker : ComWorkerHealthSnapshot) : Json :=
  .record
    [("running", .bool worker.running),
     ("accepting_tasks", .bool worker.acceptingTasks),
     ("faulted", .bool worker.faulted),
     ("last_fault_message", textOrNull worker.lastFaultMessage),
     ("last_fault_timestamp", timeOrNull worker.lastFaultTimestamp)]

def jvlinkJson (health : JVLinkHealthSnapshot) : Json :=
  .record
    [("status", .text health.status),
     ("initialized", .bool health.initialized),
     ("operational", .bool health.operational),
     ("faulted", .bool health.faulted),
     ("current_operation", textOrNull health.currentOperation),
     ("current_operation_started_at", timeOrNull health.currentOperationStartedAt),
     ("event_watch_active", .bool health.eventWatchActive),
     ("last_fault_message", textOrNull health.lastFaultMessage),
     ("last_fault_timestamp", timeOrNull health.lastFaultTimestamp),
     ("worker", comWorkerJson health.worker)]

def rejectionsJson (count : UInt64) (lastTimestamp : Int) : Json :=
  .record [("count", .integer count.toNat), ("last_timestamp", timeOrNull lastTimestamp)]

def WorkerServer.health (server : WorkerServer) : JVLinkHealthSnapshot :=
  server.wrapper.getD { status := "unavailable" }

def WorkerServer.healthJson (server : WorkerServer) : Json :=
  .record
    [("status", .text (if server.health.operational then "healthy" else "unhealthy")),
     ("timestamp", .integer clock.seconds),
     ("service", .record
       [("name", .text "JVLinkServer"),
        ("version", .text getApiVersion),
        ("uptime", .integer clock.steady)]),
     ("components", .record
       [("http_server", .record [("status", .text "healthy"), ("port", .integer server.port)]),
        ("jvlink", jvlinkJson server.health)]),
     ("metrics", .record
       [("busy", rejectionsJson server.busyRejectionCount server.lastBusyTimestamp),
        ("unavailable",
          rejectionsJson server.unavailableRejectionCount server.lastUnavailableTimestamp)]),
     ("session", server.buildSessionJson clock)]

def handleHealth : Handler Unit :=
  handle
    (do
      let _ ← ensureRequestId clock request
      let server := (← read).server
      if !server.health.operational then
        respond fun response => { response with status := 503 }
      setJson (server.healthJson clock))
    fun what => do
      respond fun response => { response with status := 503 }
      setJson (.record [("status", .text "unhealthy"), ("error", .text what)])

/-! ## Refusals -/

def refusalJson (code : Int) (message operation : String) (session : Json) : Json :=
  .record
    [("error", .record [("code", .integer code), ("message", .text message)]),
     ("operation", .text operation),
     ("session", session)]

def setHeaderUnless (absent : Bool) (name : String) (value : Bytes) : Handler Unit :=
  if absent then pure () else respond (·.setHeader name value)

/-- The status line and header fields of `setBusyResponse`. -/
def setBusyHeaders (session : SessionSnapshot) (shown : String) (requestId : Bytes) :
    Handler Unit := do
  respond fun response => { response with status := 503 }
  respond (·.setHeader "X-Request-Id" requestId)
  respond (·.setHeader "Retry-After" (decimal 1))
  respond (·.setHeader "X-JVLink-Busy" (utf8 "1"))
  respond (·.setHeader "X-JVLink-Operation" (utf8 shown))
  setHeaderUnless session.requestId.isEmpty "X-JVLink-Session-Request-Id" session.requestId
  setHeaderUnless session.path.isEmpty "X-JVLink-Session-Path" (utf8 session.path)
  setHeaderUnless (session.startedAt ≤ 0) "X-JVLink-Session-Started-At" (decimal session.startedAt)
  setHeaderUnless (!session.busy) "X-JVLink-Session-Elapsed-Ms" (decimal session.elapsedMs)

def setBusyResponse (operation : Operation) (requestId : Bytes) : Handler Unit := do
  setServer fun server =>
    { server with
      busyRejectionCount := server.busyRejectionCount + 1
      lastBusyTimestamp := clock.seconds }
  let server := (← read).server
  let session := server.session clock
  let shown := if session.operation.isEmpty then operation.name else session.operation
  setBusyHeaders session shown requestId
  setJson (refusalJson (-202) "JV-Link session is busy" shown (server.buildSessionJson clock))

def setUnavailableResponse (operation : Operation) (message : String) (requestId : Bytes) :
    Handler Unit := do
  setServer fun server =>
    { server with
      unavailableRejectionCount := server.unavailableRejectionCount + 1
      lastUnavailableTimestamp := clock.seconds }
  let server := (← read).server
  respond fun response => { response with status := 503 }
  setHeaderUnless requestId.isEmpty "X-Request-Id" requestId
  respond (·.setHeader "X-JVLink-Unavailable" (utf8 "1"))
  respond (·.setHeader "X-JVLink-Operation" (utf8 operation.name))
  setJson (refusalJson (-50301) message operation.name (server.buildSessionJson clock))

def ensureWrapperOperational (operation : Operation) (requestId : Bytes) : Handler Bool := do
  match (← read).server.wrapper with
  | none =>
      setUnavailableResponse clock operation "JV-Link wrapper is not available" requestId
      return false
  | some health =>
      if health.operational then return true
      else
        setUnavailableResponse clock operation
          (if health.lastFaultMessage.isEmpty then "JV-Link wrapper is not operational"
            else health.lastFaultMessage)
          requestId
        return false

def tryBeginOperation (operation : Operation) (requestId : Bytes) (lockFree : Bool) :
    Handler Bool := do
  if !(← ensureWrapperOperational clock operation requestId) then return false
  if lockFree then return true
  setBusyResponse clock operation requestId
  return false

/-- A lock-taking handler without the checks of its request body.  `served` is what it
does under the lock, its answer to a `JVLinkFatalException` included. -/
def handleOperation (operation : Operation) (lockFree : Bool) (served : Handler Unit) :
    Handler Unit :=
  handle
    (do
      let requestId ← ensureRequestId clock request
      if ← tryBeginOperation clock operation requestId lockFree then served)
    fun _ => answer500 "Internal Server Error"

end Handlers

/-! ## The server around the handlers -/

def corsHeaders (response : Response) : Response :=
  ((response.setHeader "Access-Control-Allow-Origin" (utf8 "*")).setHeader
    "Access-Control-Allow-Methods" (utf8 "GET, POST, OPTIONS")).setHeader
    "Access-Control-Allow-Headers" (utf8 "Content-Type")

/-- The body of an error that no handler described. -/
def failureJson (message : String) : Json :=
  .record
    [("status", .text "error"),
     ("error_message", .text message),
     ("read_count", .integer (-1)),
     ("download_count", .integer 0),
     ("last_file_timestamp", .null),
     ("records", .array [])]

def httpServer : Server where
  preRoutingHandler := corsHeaders
  errorHandler response :=
    if response.status = 503 ∧ response.getHeaderValue "X-JVLink-Busy" = utf8 "1" then response
    else if !response.body.isEmpty then response
    else
      let message :=
        if response.status = 404 then "Not found"
        else if 500 ≤ response.status then "Internal server error"
        else "Request failed"
      response.setContent (failureJson message).render jsonContentType
  exceptionHandler what response :=
    response.setContent (failureJson ("Exception: " ++ what)).render jsonContentType

/-- A request through the whole server, given the handler of its route. -/
def WorkerServer.serve (server : WorkerServer) (connection : Connection) (request : Request)
    (handler : Handler Unit) : Response :=
  let response :=
    match handler { server, response := httpServer.preRoutingHandler {} } with
    | .ok _ exchange => exchange.response
    | .error what exchange => httpServer.exceptionHandler what exchange.response
  httpServer.respond connection request response

theorem serve_of_ok {server : WorkerServer} {connection : Connection} {request : Request}
    {handler : Handler Unit} {exchange : Exchange}
    (answered : handler { server, response := corsHeaders {} } = .ok () exchange) :
    server.serve connection request handler =
      httpServer.respond connection request exchange.response := by
  have same : handler { server, response := httpServer.preRoutingHandler {} } = .ok () exchange :=
    answered
  rw [WorkerServer.serve, same]

end JVLinkServer.Worker
