import JVLinkServer.Text

namespace JVLinkServer.Worker

/-! # The active session of the worker

The worker serves one JV-Link operation at a time.  What it is doing is published
as a `SessionSnapshot` under a mutex of its own, separate from the operation
lock, so that `/session`, `/health` and busy answers can read it at any time.
-/

/-- The lock-taking endpoints, by the operation name they publish. -/
inductive Operation
  | queryStored
  | queryRealtime
  | eventStart
  | eventStop
  | filesDelete
  | uniformFile
  | uniformImage
  | courseFile
  | courseFile2
  | courseImage
  deriving DecidableEq, Repr

def Operation.name : Operation → String
  | .queryStored => "query_stored"
  | .queryRealtime => "query_realtime"
  | .eventStart => "event_start"
  | .eventStop => "event_stop"
  | .filesDelete => "files_delete"
  | .uniformFile => "uniform_file"
  | .uniformImage => "uniform_image"
  | .courseFile => "course_file"
  | .courseFile2 => "course_file2"
  | .courseImage => "course_image"

/-- The two operations that stream, and poll the reset generation while they do. -/
def Operation.streams : Operation → Bool
  | .queryStored | .queryRealtime => true
  | _ => false

/-- `request_id` is a header value chosen by the client, hence any bytes.  The
other strings are constants, an address, or strings of a parsed JSON body. -/
structure SessionSnapshot where
  busy : Bool := false
  watchActive : Bool := false
  operation : String := ""
  path : String := ""
  dataspec : String := ""
  key : String := ""
  requestId : Bytes := []
  remoteAddr : String := ""
  startedAt : Int := 0
  elapsedMs : Int := 0
  deriving DecidableEq, Repr

/-- What a handler knows of its request when it publishes its session. -/
structure IncomingRequest where
  operation : Operation
  path : String
  dataspec : String := ""
  key : String := ""
  requestId : Bytes
  remoteAddr : String
  deriving DecidableEq, Repr

def makeSessionSnapshot (request : IncomingRequest) (now : Int) (watchActive : Bool) :
    SessionSnapshot where
  busy := true
  watchActive := watchActive
  operation := request.operation.name
  path := request.path
  dataspec := request.dataspec
  key := request.key
  requestId := request.requestId
  remoteAddr := request.remoteAddr
  startedAt := now

/-- `clearActiveSession`: the ending lease is recognised by its request id alone. -/
def clearActiveSession (activeSession : SessionSnapshot) (requestId : Bytes) : SessionSnapshot :=
  if activeSession.requestId = requestId then {} else activeSession

/-- `getSessionSnapshot`, with the clock and the wrapper's watch flag at the read. -/
def getSessionSnapshot (activeSession : SessionSnapshot) (now : Int) (watchActive : Bool) :
    SessionSnapshot :=
  { activeSession with
    watchActive
    elapsedMs :=
      if activeSession.busy && activeSession.startedAt > 0 then
        max 0 (now - activeSession.startedAt) * 1000
      else
        activeSession.elapsedMs }

section Snapshot

variable (activeSession : SessionSnapshot) (now : Int) (watchActive : Bool)

@[simp] theorem getSessionSnapshot_busy :
    (getSessionSnapshot activeSession now watchActive).busy = activeSession.busy := rfl

@[simp] theorem getSessionSnapshot_requestId :
    (getSessionSnapshot activeSession now watchActive).requestId = activeSession.requestId := rfl

@[simp] theorem makeSessionSnapshot_busy (request : IncomingRequest) :
    (makeSessionSnapshot request now watchActive).busy = true := rfl

@[simp] theorem makeSessionSnapshot_requestId (request : IncomingRequest) :
    (makeSessionSnapshot request now watchActive).requestId = request.requestId := rfl

end Snapshot

@[simp] theorem clearActiveSession_self (activeSession : SessionSnapshot) :
    clearActiveSession activeSession activeSession.requestId = {} := by
  simp [clearActiveSession]

end JVLinkServer.Worker
