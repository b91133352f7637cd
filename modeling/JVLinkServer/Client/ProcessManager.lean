import JVLinkServer.Client.HttpTransport
import JVLinkServer.Coroutines

namespace JVLinkServer.Client

open Coroutines Effects

/-! # The process manager

`start` probes the server, spawns it on the local machine if nothing answers, and waits
until it is healthy.  What the calls outside the program come to is given.
-/

/-- The fields of the configuration that starting and stopping read. -/
structure JVServerConfig where
  host : Bytes
  port : Int
  sid : Bytes
  startupTimeout : Int := 30
  logLevel : Bytes := utf8 "warn"
  apiVersion : Bytes := utf8 "v1"

/-- Instances of `Exception`.  What an exception was raised from is left out. -/
inductive Failure
  | jvLink (error : JVLinkError)
  | timeoutError
  | other (text : Bytes)

namespace Failure

/-- `str(e)` -/
def text : Failure → Bytes
  | .jvLink error => error.message
  | .timeoutError => []
  | .other text => text

/-- `isinstance(e, JVServerError)` -/
def isServerError : Failure → Bool
  | .jvLink error =>
      match error.cls with
      | .serverError | .busyError | .unavailableError | .openError | .authError
      | .fileCorruptedError => true
      | _ => false
  | .timeoutError | .other _ => false

def isTimeoutError : Failure → Bool
  | .timeoutError => true
  | .jvLink _ | .other _ => false

end Failure

def failure (cls : ErrorClass) (message : Bytes) : Failure := .jvLink { cls, message }

/-- The answer to a GET of `/health`. -/
structure HealthAnswer where
  status : Nat
  json : Except Failure Json

/-- A turn of the loop of `_wait_for_server`: the request, leaving the client, the pause. -/
structure Attempt where
  get : Except (Raised Failure) HealthAnswer
  close : Except (Raised Failure) Unit := .ok ()
  pause : Except (Raised Failure) Unit := .ok ()

/-- The calls of `_stop_server`. -/
structure StopOutcomes where
  request : Except (Raised Failure) Unit := .ok ()
  pause : Except (Raised Failure) Unit := .ok ()
  exited : Bool := false
  terminate : Except Failure Unit := .ok ()
  wait : Except (Raised Failure) Unit := .ok ()
  kill : Except Failure Unit := .ok ()
  lastWait : Except (Raised Failure) Unit := .ok ()

/-- What the calls of one `start` come to.  There is time for the attempts listed. -/
structure Surroundings where
  probe : Except Failure HealthAnswer
  windows : Bool := true
  packaged : Bytes := []
  isPackaged : Bool := false
  onPath : Option Bytes := none
  executableExists : Bool := true
  popen : Except Failure Nat
  settling : Except (Raised Failure) Unit := .ok ()
  attempts : List Attempt := []
  stopping : StopOutcomes := {}
  clientCreated : Except Failure Unit := .ok ()

inductive ServerEvent
  | spawned (process : Nat) (arguments : List Bytes)
  | shutdownRequested (url : Bytes)
  | exited (process : Nat)
  | terminated (process : Nat)
  | killed (process : Nat)
  deriving DecidableEq, Repr

structure RuntimeState where
  serverProcess : Option Nat := none
  transportOpen : Bool := false
  log : List ServerEvent := []

abbrev Runtime := Coroutine RuntimeState Failure

def RuntimeState.note (state : RuntimeState) (event : ServerEvent) : RuntimeState :=
  { state with log := state.log ++ [event] }

def note (event : ServerEvent) : Runtime Unit := update fun state => state.note event

namespace ProcessManager

section Requests

variable (config : JVServerConfig)

/-- `_build_url` -/
def buildUrl (endpoint : Bytes) : Bytes :=
  if endpoint ∈ [utf8 "/health", utf8 "/version", utf8 "/openapi.json"] then endpoint
  else if !config.apiVersion.isEmpty ∧ config.apiVersion ≠ utf8 "v1" then
    utf8 "/" ++ config.apiVersion ++ utf8 "/" ++ endpoint.dropWhile (· == 47)
  else endpoint

/-- `{host}:{port}` -/
def address : Bytes := config.host ++ utf8 ":" ++ decimal config.port

/-- `_base_url` -/
def baseUrl : Bytes := utf8 "http://" ++ address config

/-- The host is this machine. -/
def isLocal : Bool := config.host ∈ [utf8 "127.0.0.1", utf8 "localhost"]

/-- `_probe_server`: alive, healthy, and the health data. -/
def probeServer (probe : Except Failure HealthAnswer) : Bool × Bool × Option Json :=
  match probe with
  | .error _ => (false, false, none)
  | .ok answer =>
      match answer.json with
      | .ok (.object members) =>
          let health := Json.object members
          (true, (health.member? "status").any (isString "healthy"), some health)
      | .ok _ | .error _ => (false, false, none)

end Requests

/-! ## Waiting for the server -/

/-- `health_data.get(key, fallback)`; the text of an `AttributeError` is only logged. -/
def getHealth (key : String) (fallback health : Json) : Except (Raised Failure) Json :=
  (getMember key fallback health).mapError fun _ => .error (.other [])

/-- The detail of an unhealthy status. -/
def faultDetail (health : Json) : Except (Raised Failure) Bytes := do
  let components ← getHealth "components" (.object []) health
  let jvlinkInfo ← getHealth "jvlink" (.object []) components
  match if jvlinkInfo.isObject then jvlinkInfo.member? "last_fault_message" else none with
  | some (.string message) => return if message.isEmpty then [] else utf8 ": " ++ message
  | _ => return []

/-- The body of the request's client: whether the server is healthy. -/
def readHealth (attempt : Attempt) : Except (Raised Failure) Bool := do
  let answer ← attempt.get
  let health ← synchronous answer.json
  if answer.status = 200 then
    if isString "healthy" (← getHealth "status" .null health) then return true
  if health.isObject ∧ (health.member? "status").any (isString "unhealthy") then
    let detail ← faultDetail health
    throw (.error (failure .serverError
      (utf8 "JVLinkServer started but reported unhealthy status" ++ detail)))
  return false

/-- The `try` statement of a turn. -/
def healthCheck (attempt : Attempt) : Except (Raised Failure) Bool :=
  -- What leaving the client raises takes the place of everything else.
  let healthy :=
    match attempt.close with
    | .ok () => readHealth attempt
    | .error raised => .error raised
  match healthy with
  | .error (.error exception) =>
      if exception.isServerError then .error (.error exception) else .ok false
  | healthy => healthy

/-- `_wait_for_server` -/
def waitForServer (config : JVServerConfig) : List Attempt → Except (Raised Failure) Unit
  | [] =>
      .error (.error (failure .timeoutError
        (utf8 "Server startup timeout after " ++ decimal config.startupTimeout ++
          utf8 " seconds")))
  | attempt :: attempts => do
      if ← healthCheck attempt then return
      attempt.pause
      waitForServer config attempts

/-! ## Starting and stopping -/

section Processes

variable (python : PythonStr) (config : JVServerConfig) (surroundings : Surroundings)

/-- `_find_server_executable` -/
def findServerExecutable : Except Failure Bytes :=
  if !surroundings.windows then
    .error (failure .serverError (utf8
      ("Local JVLinkServer is only supported on Windows.\n" ++
        "JV-Link is a Windows-specific COM component.\n" ++
        "To use PyJVLink on non-Windows systems, you must connect to a remote JVLinkServer.\n")))
  else if surroundings.isPackaged then .ok surroundings.packaged
  else
    match surroundings.onPath.filter (!·.isEmpty) with
    | some path => .ok path
    | none =>
        .error (failure .serverError (utf8
          ("JVLinkServer executable not found.\n" ++
            "Place JVLinkServer.exe in pyjvlink/lib or make it available in PATH.")))

def serverArguments (serverExe : Bytes) : List Bytes :=
  [serverExe, utf8 "--port", decimal config.port, utf8 "--log-level", config.logLevel,
    utf8 "--sid", config.sid]

/-- `_start_server` -/
def startServer : Runtime Unit := do
  let serverExe ← comesTo (synchronous (findServerExecutable surroundings))
  if !surroundings.executableExists then
    fail (failure .serverError (utf8 "Server executable not found: " ++ serverExe))
  catchingAll
    (do
      let process ← comesTo (synchronous surroundings.popen)
      update fun state =>
        { state.note (.spawned process (serverArguments config serverExe)) with
          serverProcess := some process }
      comesTo surroundings.settling)
    fun exception =>
      fail (failure .serverError (utf8 "Failed to start server: " ++ exception.text))

/-- The graceful part of `_stop_server`. -/
def requestShutdown : Runtime Unit :=
  catchingAll
    (do
      note (.shutdownRequested (baseUrl config ++ buildUrl config (utf8 "/shutdown")))
      comesTo surroundings.stopping.request
      comesTo surroundings.stopping.pause)
    fun _ => pure ()

/-- The other part of `_stop_server`. -/
def endProcess (process : Nat) : Runtime Unit :=
  let stopping := surroundings.stopping
  if stopping.exited then note (.exited process)
  else do
    comesTo (synchronous stopping.terminate)
    note (.terminated process)
    catching Failure.isTimeoutError (comesTo stopping.wait) fun _ => do
      comesTo (synchronous stopping.kill)
      note (.killed process)
      comesTo stopping.lastWait

/-- `_stop_server` -/
def stopServer : Runtime Unit := do
  match (← read).serverProcess with
  | none => pure ()
  | some process =>
      finishing
        (do
          requestShutdown config surroundings
          endProcess surroundings process)
        (update fun state => { state with serverProcess := none })

/-- `stop` -/
def stop : Runtime Unit := do
  match (← read).serverProcess with
  | none => pure ()
  | some _ => stopServer config surroundings

def notRunningHere : Bytes :=
  utf8
    ("JVLinkServer is not running on localhost in this non-Windows environment.\n" ++
      "Run JVLinkServer.exe on a Windows machine and set JVLINK_SERVER_HOST / " ++
      "JVLINK_SERVER_PORT to that server.")

/-- The part of `start` before the wait: whether a local server was started. -/
def ensureServer : Runtime Bool := do
  let (serverAlive, serverHealthy, healthData) := probeServer surroundings.probe
  if !serverAlive ∧ isLocal config then
    if surroundings.windows then
      startServer config surroundings
      return true
    else fail (failure .connectionError notRunningHere)
  else if !serverAlive then
    fail (failure .connectionError
      (utf8 "JVLinkServer is not running on " ++ address config ++
        utf8 "\nPlease start JVLinkServer on the remote host first."))
  else if !serverHealthy then
    let status := (healthData.bind (Json.member? "status")).getD (.string (utf8 "unknown"))
    fail (failure .serverError
      (utf8 "JVLinkServer is running on " ++ address config ++
        utf8 " but is unhealthy (status=" ++ formatted python status ++
        utf8 "). Check /health and restart the server if needed."))
  else return false

/-- What `start` does when the wait fails. -/
def discardServer (startedLocalServer : Bool) : Runtime Unit := do
  let state ← read
  if startedLocalServer ∧ state.serverProcess.isSome then stopServer config surroundings
  else pure ()

/-- `start` -/
def start : Runtime Unit := do
  let startedLocalServer ← ensureServer python config surroundings
  catchingAll (comesTo (waitForServer config surroundings.attempts)) fun exception => do
    discardServer config surroundings startedLocalServer
    fail exception

end Processes

end ProcessManager

section Facade

variable (python : PythonStr) (config : JVServerConfig) (surroundings : Surroundings)

/-- `HttpTransport.start`, which awaits nothing. -/
def HttpTransport.start : Runtime Unit := do
  if !(← read).transportOpen then
    comesTo (synchronous surroundings.clientCreated)
    update fun state => { state with transportOpen := true }

/-- `Client.start` -/
def start : Runtime Unit := do
  ProcessManager.start python config surroundings
  catchingAll (HttpTransport.start surroundings) fun exception => do
    ProcessManager.stop config surroundings
    fail exception

end Facade

end JVLinkServer.Client
