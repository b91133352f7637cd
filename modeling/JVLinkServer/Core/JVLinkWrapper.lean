import JVLinkServer.Core.ComThreadWorker
import JVLinkServer.Core.ErrorCodes
import JVLinkServer.Effects
import JVLinkServer.Text

namespace JVLinkServer.Core

open Effects

/-! # The JV-Link wrapper

JV-Link and Windows are an environment with a hidden state `κ`, the code behind the
callbacks of a query has the state `ρ`.  The wrapper is called by one operation at a
time and never from the COM thread.
-/

structure RetryConfig where
  autoRetryOnCorruption : Bool := true
  maxRetryAttempts : Int := 3
  deriving DecidableEq, Repr

/-- Milliseconds; zero waits for as long as it takes. -/
structure TimeoutConfig where
  openTimeout : Nat := 60000
  setupOpenTimeout : Nat := 300000
  realtimeOpenTimeout : Nat := 45000
  streamReadTimeout : Nat := 30000
  statusTimeout : Nat := 10000
  controlTimeout : Nat := 30000
  deriving DecidableEq, Repr

structure JVLinkHealthSnapshot where
  initialized : Bool := false
  operational : Bool := false
  faulted : Bool := false
  eventWatchActive : Bool := false
  currentOperationStartedAt : Int := 0
  lastFaultTimestamp : Int := 0
  status : String := ""
  currentOperation : String := ""
  lastFaultMessage : String := ""
  worker : ComWorkerHealthSnapshot := {}
  deriving DecidableEq, Repr

/-- `dispatch`, `eventHandler` and `connectionPoint` say whether the pointer is set. -/
structure JVLinkWrapper where
  dispatch : Bool := false
  isInitialized : Bool := false
  currentSid : Bytes := []
  connectionPoint : Bool := false
  eventHandler : Bool := false
  retryConfig : RetryConfig := {}
  timeoutConfig : TimeoutConfig := {}
  faulted : Bool := false
  eventWatchActive : Bool := false
  currentOperationStartedAt : Int := 0
  lastFaultTimestamp : Int := 0
  currentOperation : String := ""
  lastFaultMessage : String := ""
  deriving DecidableEq, Repr

namespace JVLinkWrapper

def isOperational (wrapper : JVLinkWrapper) : Bool := wrapper.isInitialized && !wrapper.faulted

def getHealthSnapshot (wrapper : JVLinkWrapper) (worker : ComThreadWorker) :
    JVLinkHealthSnapshot where
  initialized := wrapper.isInitialized
  operational := wrapper.isOperational
  faulted := wrapper.faulted
  eventWatchActive := wrapper.eventWatchActive
  currentOperationStartedAt := wrapper.currentOperationStartedAt
  lastFaultTimestamp := wrapper.lastFaultTimestamp
  status :=
    if wrapper.faulted then "faulted"
    else if wrapper.isInitialized then "healthy"
    else "uninitialized"
  currentOperation := wrapper.currentOperation
  lastFaultMessage := wrapper.lastFaultMessage
  worker := worker.getHealthSnapshot

def beginOperationTracking (wrapper : JVLinkWrapper) (operationName : String) (now : Int) :
    JVLinkWrapper :=
  { wrapper with currentOperation := operationName, currentOperationStartedAt := now }

def finishOperationTracking (wrapper : JVLinkWrapper) : JVLinkWrapper :=
  { wrapper with currentOperation := "", currentOperationStartedAt := 0 }

/-- The current operation stays on record. -/
def markFatalFault (wrapper : JVLinkWrapper) (message : String) (now : Int) : JVLinkWrapper :=
  { wrapper with
    faulted := true
    isInitialized := false
    eventWatchActive := false
    lastFaultTimestamp := now
    lastFaultMessage := message }

/-- What `initializeWrapper` does first. -/
def resetHealth (wrapper : JVLinkWrapper) : JVLinkWrapper :=
  { wrapper with
    faulted := false
    eventWatchActive := false
    currentOperationStartedAt := 0
    lastFaultTimestamp := 0
    currentOperation := ""
    lastFaultMessage := "" }

def releaseDispatch (wrapper : JVLinkWrapper) : JVLinkWrapper :=
  { wrapper with dispatch := false, isInitialized := false, eventWatchActive := false }

end JVLinkWrapper

/-! ## The world of the wrapper -/

/-- `stillRunning` is no exception of the program: it ends a run whose fuel is used up. -/
inductive Exception
  | comTaskTimeout (taskName : String)
  | jvLinkFatal (message : String)
  | jvStreamRead (errorCode : Int) (message : String)
  | jvOperationCanceled (message : String)
  | clientDisconnected
  | other (message : String)
  | stillRunning
  deriving DecidableEq, Repr

def Exception.unwinds : Exception → Bool
  | .stillRunning => false
  | _ => true

/-- The outcome of `IDispatch::Invoke`: the `HRESULT` failed, the result is a long,
or it is a variant of another type. -/
inductive Reply
  | failed
  | long (value : Int)
  | other (lVal : Int)
  deriving DecidableEq, Repr

/-- For the methods that read `lVal` without looking at the type. -/
def Reply.lVal (failure : Int) : Reply → Int
  | .failed => failure
  | .long value | .other value => value

def Reply.long? (failure : Int) : Reply → Int
  | .long value => value
  | .failed | .other _ => failure

structure OpenReply where
  result : Reply
  readCount : Int := 0
  downloadCount : Int := 0
  lastFileTimestamp : String := ""

inductive SafeArray
  | null
  | inaccessible
  | bytes (data : Bytes)
  deriving DecidableEq, Repr

/-- `filename` is the reported name in code page 932, `none` when the string is empty
or does not convert. -/
structure GetsReply where
  result : Reply
  safeArray : SafeArray := .null
  filename : Option Bytes := none
  deriving DecidableEq, Repr

/-- What the wrapper asks of JV-Link and of the system. -/
structure JVLink (κ : Type) where
  now : κ → Int × κ
  taskFate : String → κ → TaskFate × κ
  createInstance : κ → Bool × κ
  adviseEventSink : κ → Bool × κ
  jvInit : (sid : Bytes) → κ → Reply × κ
  jvOpen : (dataspec fromtime : Bytes) → (option : Int) → κ → OpenReply × κ
  jvrtOpen : (dataspec key : Bytes) → κ → Reply × κ
  jvStatus : κ → Reply × κ
  jvCancel : κ → Reply × κ
  jvGets : κ → GetsReply × κ
  jvSkip : κ → Reply × κ
  jvFiledelete : (filename : Bytes) → κ → Reply × κ
  jvClose : κ → Reply × κ
  jvWatchEvent : κ → Reply × κ
  jvWatchEventClose : κ → Reply × κ
  jvFukuFile : (pattern filepath : Bytes) → κ → Reply × κ
  jvFuku : (pattern : Bytes) → κ → Reply × κ
  jvCourseFile : (key : Bytes) → κ → Reply × κ
  jvCourseFile2 : (key filepath : Bytes) → κ → Reply × κ

/-- What happened to the files of a stream: a `JVGets` call, with the number of
attempts that are left after it, or a name passed to `performJVFiledelete`. -/
inductive FileEvent
  | gets (attemptsLeft : Nat) (reply : GetsReply)
  | filedelete (filename : Bytes)
  deriving DecidableEq, Repr

/-- `observed`, `timedOut` and `files` are records: the snapshots that could be taken
while no COM call was in progress, the tasks that timed out, and the file events. -/
structure World (κ ρ : Type) where
  wrapper : JVLinkWrapper
  worker : ComThreadWorker
  env : κ
  client : ρ
  observed : List JVLinkHealthSnapshot := []
  timedOut : List String := []
  files : List FileEvent := []

abbrev Action (κ ρ α : Type) := EStateM Exception (World κ ρ) α

section Primitives

variable {κ ρ α : Type}

def ask (question : κ → α × κ) : Action κ ρ α :=
  fun world => .ok (question world.env).1 { world with env := (question world.env).2 }

/-- Call back into the code that called the wrapper. -/
def callBack (action : EStateM Exception ρ α) : Action κ ρ α :=
  fun world =>
    match action world.client with
    | .ok value after => .ok value { world with client := after }
    | .error exception after => .error exception { world with client := after }

def setWrapper (change : JVLinkWrapper → JVLinkWrapper) : Action κ ρ Unit :=
  update fun world => { world with wrapper := change world.wrapper }

def setWorker (change : ComThreadWorker → ComThreadWorker) : Action κ ρ Unit :=
  update fun world => { world with worker := change world.worker }

def observe : Action κ ρ Unit :=
  update fun world =>
    { world with
      observed := world.observed ++ [world.wrapper.getHealthSnapshot world.worker] }

def recordTimeout (taskName : String) : Action κ ρ Unit :=
  update fun world => { world with timedOut := world.timedOut ++ [taskName] }

def recordFile (event : FileEvent) : Action κ ρ Unit :=
  update fun world => { world with files := world.files ++ [event] }

end Primitives

section Wrapper

variable {κ ρ α : Type} (jv : JVLink κ)

/-! ## Calls on the COM thread -/

def giveUpTask (taskName : String) : Action κ ρ α := do
  let now ← ask jv.now
  setWorker (·.recordFault ("COM task timed out: " ++ taskName) now)
  recordTimeout taskName
  EStateM.throw (.comTaskTimeout taskName)

/-- A task that is given up after it began has all its effects before the fault is recorded,
where the COM thread may have some of them later. -/
def invokeTask (taskName : String) (timeout : Nat) (task : Action κ ρ α) : Action κ ρ α := do
  let worker := (← read).worker
  if !worker.running then EStateM.throw (.other "ComThreadWorker is not running")
  else if worker.faulted then EStateM.throw (.other worker.getLastFaultMessage)
  else if !worker.accepts then
    EStateM.throw (.other "ComThreadWorker is stopping and no longer accepts tasks")
  else if timeout = 0 then task
  else
    match ← ask (jv.taskFate taskName) with
    | .completes => task
    | .timesOut false => giveUpTask jv taskName
    | .timesOut true =>
        attempt task
        giveUpTask jv taskName

/-- A worker that does not run leaves the calling thread to do the work. -/
def runOnComThread (operationName : String) (timeout : Nat) (callable : Action κ ρ α) :
    Action κ ρ α := do
  if !(← read).worker.running then callable else invokeTask jv operationName timeout callable

/-- The two catch clauses of `invokeComCall`. -/
def translateException (operationName : String) (exception : Exception) : Action κ ρ α :=
  match exception with
  | .comTaskTimeout _ => do
      let message := "JV-Link COM task timed out during " ++ operationName
      let now ← ask jv.now
      setWrapper (·.markFatalFault message now)
      observe
      EStateM.throw (.jvLinkFatal message)
  | other => do
      setWrapper (·.finishOperationTracking)
      observe
      EStateM.throw other

def invokeComCall (operationName : String) (timeout : TimeoutConfig → Nat)
    (callable : Action κ ρ α) : Action κ ρ α := do
  observe
  let wrapper := (← read).wrapper
  if wrapper.faulted then
    EStateM.throw (.jvLinkFatal
      (if wrapper.lastFaultMessage.isEmpty then "JV-Link wrapper is faulted"
        else wrapper.lastFaultMessage))
  else
    let now ← ask jv.now
    setWrapper (·.beginOperationTracking operationName now)
    let result ← handle (runOnComThread jv operationName (timeout wrapper.timeoutConfig) callable)
      (translateException jv operationName)
    setWrapper (·.finishOperationTracking)
    observe
    return result

/-- `invokeMethod`, which has nothing to call before an instance is created. -/
def invokeMethod (method : κ → Reply × κ) : Action κ ρ Reply := do
  if (← read).wrapper.dispatch then ask method else return .failed

/-- What is not UTF-8 reaches JV-Link as an empty string. -/
def convertUtf8ToBSTR (value : Bytes) : Bytes := if validUtf8 value then value else []

def performJVClose : Action κ ρ Bool := do
  if !(← read).wrapper.dispatch then return true
  return (← invokeMethod jv.jvClose) ≠ .failed

/-- The destructor of `JVSessionGuard`: whatever the task throws is swallowed. -/
def closeSession : Action κ ρ Unit := do
  let timeout := (← read).wrapper.timeoutConfig.controlTimeout
  attempt (runOnComThread jv "jv_close" timeout (performJVClose jv))
  observe

def withSessionGuard (body : Action κ ρ α) : Action κ ρ α :=
  afterwards Exception.unwinds body fun world => finalState (closeSession jv world)

/-! ## Initialisation and shutdown -/

def createJVLinkInstance : Action κ ρ Bool := do
  let created ← ask jv.createInstance
  setWrapper fun wrapper => { wrapper with dispatch := created }
  return created

def performJVInit (sid : Bytes) : Action κ ρ Int := do
  return (← invokeMethod (jv.jvInit (convertUtf8ToBSTR sid))).long? (-1)

def shutdownOnComThread : Action κ ρ Bool := do
  setWrapper (·.releaseDispatch)
  return true

/-- On the calling thread it refuses. -/
def connectEventSink : Action κ ρ Bool := do
  let world ← read
  if !world.wrapper.dispatch || !world.wrapper.eventHandler then return false
  if world.wrapper.connectionPoint then return true
  if !world.worker.running then return false
  let connected ← ask jv.adviseEventSink
  setWrapper fun wrapper => { wrapper with connectionPoint := connected }
  return connected

/-- The call is wrapped in a catch of everything. -/
def succeeds (action : Action κ ρ Bool) : Action κ ρ Bool :=
  handle (do let _ ← action; return true) fun _ => return false

def initializeWrapper (sid : Bytes) : Action κ ρ Bool := do
  if (← read).wrapper.isInitialized then return true
  setWrapper (·.resetHealth)
  let createResult ← invokeComCall jv "create_jvlink_instance" (·.controlTimeout)
    (createJVLinkInstance jv)
  if !createResult then return false
  let initResult ← invokeComCall jv "jv_init" (·.controlTimeout) (performJVInit jv sid)
  if initResult ≠ jvSuccess then
    attempt (invokeComCall jv "cleanup_after_jvinit_failure" (·.controlTimeout) shutdownOnComThread)
    return false
  let closed ← succeeds (invokeComCall jv "initial_jvclose" (·.controlTimeout) (performJVClose jv))
  if !closed then return false
  setWrapper fun wrapper => { wrapper with currentSid := sid, isInitialized := true }
  if (← read).wrapper.eventHandler then
    let _ ← invokeComCall jv "connect_event_sink" (·.controlTimeout) (connectEventSink jv)
  return true

def shutdown : Action κ ρ Unit := do
  let world ← read
  if world.wrapper.faulted then setWrapper fun wrapper => { wrapper with isInitialized := false }
  else if !world.worker.running then setWrapper (·.releaseDispatch)
  else
    let _ ← invokeComCall jv "shutdown_wrapper" (·.controlTimeout) shutdownOnComThread

end Wrapper

end JVLinkServer.Core
