import JVLinkServer.Effects
import JVLinkServer.Json

namespace JVLinkServer.Supervisor

open Effects

/-! # The worker process manager

The supervisor keeps one worker process and replaces it when it fails.  Windows,
the network and the worker itself are an environment with a hidden state `κ`, so
what is proved holds for every behaviour of theirs.
-/

/-- `PROCESS_INFORMATION`; `none` is a closed handle. -/
structure ProcessInformation where
  hProcess : Option Nat := none
  hThread : Option Nat := none
  deriving DecidableEq, Repr

/-- An answer to `GET /health`. -/
structure HealthReply where
  status : Int
  body : Bytes
  deriving DecidableEq, Repr

structure WorkerProbeResult where
  reachable : Bool := false
  healthy : Bool := false
  httpStatus : Int := 0
  payload : Json := .object []
  status : Bytes := utf8 "unreachable"
  faultMessage : Bytes := []

/-- `STILL_ACTIVE` -/
def stillActive : UInt32 := 259

structure WorkerProcessManager where
  processInfo : ProcessInformation := {}
  hasProcess : Bool := false
  workerPort : Nat := 0
  generation : UInt64 := 0
  restartCount : UInt64 := 0
  lastRestartTimestamp : Int := 0
  lastRestartReason : Bytes := []
  lastExitCode : UInt32 := stillActive
  lastProbe : WorkerProbeResult := {}
  sid : Bytes
  logLevel : Bytes
  executablePath : Bytes
  startupTimeoutSec : Nat := 30

/-- What the manager asks of the world.  `bindLoopback` fails with an exception,
`createProcess` with an error code.  `hasExited` and `timesOut` wait for the process, not at
all and for three seconds. -/
structure ManagerEnvironment (κ : Type) where
  bindLoopback : κ → Except String Nat × κ
  createProcess : (commandLine : Bytes) → κ → Except UInt32 (Nat × Nat) × κ
  getHealth : (port : Nat) → κ → Option HealthReply × κ
  postShutdown : (port : Nat) → κ → κ
  hasExited : (process : Option Nat) → κ → Bool × κ
  timesOut : (process : Option Nat) → κ → Bool × κ
  terminateProcess : (process : Option Nat) → κ → κ
  exitCode : (process : Option Nat) → κ → UInt32 × κ
  closeHandle : (handle : Nat) → κ → κ
  deadlinePassed : κ → Bool × κ
  now : κ → Int × κ

/-- Why a public operation of the manager was called. -/
inductive Cause
  | startup
  | ensureReady
  | requestFailure (observed : Nat)
  | streamCompleted
  | sessionReset
  | healthCheck
  | shutdown
  deriving DecidableEq, Repr

/-- The state in which a public operation was called: the process that had been started last,
counted from one, and whether a probe would have found it healthy. -/
structure CallContext where
  cause : Cause := .startup
  found : Nat := 0
  healthy : Bool := false
  deriving DecidableEq, Repr

/-- The reason that `stopWorkerLocked` logs. -/
inductive StopReason
  | restart (reason : Bytes)
  | startupFailed
  | supervisorStop
  deriving DecidableEq, Repr

structure StopRecord where
  context : CallContext
  process : Nat
  reason : StopReason
  deriving DecidableEq, Repr

/-- The lists record which operations were called and what the manager did for them: which
processes it stopped and started, and for whom no process could be started. -/
structure ManagerWorld (κ : Type) where
  manager : WorkerProcessManager
  env : κ
  context : CallContext := {}
  called : List CallContext := []
  stopped : List StopRecord := []
  started : List CallContext := []
  refused : List CallContext := []

abbrev ManagerAction (κ α : Type) := EStateM String (ManagerWorld κ) α

/-- `probeWorkerLocked` from the answer on: an answer that is no JSON object still
counts by its status code. -/
def readProbe : Option HealthReply → WorkerProbeResult
  | none => {}
  | some reply =>
      let byCode := if reply.status = 200 then utf8 "healthy" else utf8 "unhealthy"
      let payload := (Json.parse reply.body).filter Json.isObject
      let status := ((payload.bind (Json.member? "status")).bind Json.string?).getD byCode
      let faultMessage :=
        (((payload.bind (Json.member? "components")).bind (Json.member? "jvlink")).bind
          (Json.member? "last_fault_message")).bind Json.string?
      { reachable := true
        healthy := reply.status = 200 && status = utf8 "healthy"
        httpStatus := reply.status
        payload := payload.getD (.object [])
        status
        faultMessage := faultMessage.getD [] }

def deriveProbeSummary (probe : WorkerProbeResult) : Bytes :=
  if !probe.reachable then utf8 "worker unreachable"
  else if !probe.faultMessage.isEmpty then probe.status ++ utf8 ": " ++ probe.faultMessage
  else probe.status ++ utf8 " (status=" ++ decimal probe.httpStatus ++ utf8 ")"

/-- Quotes are escaped, backslashes are not. -/
def quoteCommandArg (value : Bytes) : Bytes :=
  34 :: (value.flatMap fun byte => if byte = 34 then [92, 34] else [byte]) ++ [34]

def workerCommandLine (manager : WorkerProcessManager) (port : Nat) : Bytes :=
  quoteCommandArg manager.executablePath ++ utf8 " --mode worker --port " ++ decimal port ++
    utf8 " --log-level " ++ quoteCommandArg manager.logLevel ++
    utf8 " --sid " ++ quoteCommandArg manager.sid

namespace ManagerWorld

variable {κ : Type}

def setManager (world : ManagerWorld κ) (change : WorkerProcessManager → WorkerProcessManager) :
    ManagerWorld κ :=
  { world with manager := change world.manager }

/-- A probe made now would find the worker running and healthy. -/
def healthyWorker (env : ManagerEnvironment κ) (world : ManagerWorld κ) : Bool :=
  world.manager.hasProcess &&
    !(env.hasExited world.manager.processInfo.hProcess world.env).1 &&
    (readProbe (env.getHealth world.manager.workerPort world.env).1).healthy

def callContext (env : ManagerEnvironment κ) (cause : Cause) (world : ManagerWorld κ) :
    CallContext :=
  { cause, found := world.started.length, healthy := world.healthyWorker env }

def calledFor (env : ManagerEnvironment κ) (cause : Cause) (world : ManagerWorld κ) :
    ManagerWorld κ :=
  { world with
    context := world.callContext env cause
    called := world.called ++ [world.callContext env cause] }

def refuse (world : ManagerWorld κ) : ManagerWorld κ :=
  { world with refused := world.refused ++ [world.context] }

end ManagerWorld

section Locked

variable {κ : Type} (env : ManagerEnvironment κ)

/-- Ask the environment. -/
def ask {α : Type} (question : κ → α × κ) : ManagerAction κ α :=
  fun world => .ok (question world.env).1 { world with env := (question world.env).2 }

/-- Act on the environment. -/
def tell (act : κ → κ) : ManagerAction κ Unit :=
  update fun world => { world with env := act world.env }

def change (change : WorkerProcessManager → WorkerProcessManager) : ManagerAction κ Unit :=
  update (·.setManager change)

def WorkerProcessManager.closeProcess (manager : WorkerProcessManager) (exitCode : UInt32) :
    WorkerProcessManager :=
  { manager with
    lastExitCode := exitCode
    processInfo := {}
    hasProcess := false
    workerPort := 0 }

def closeHandle? : (handle : Option Nat) → ManagerAction κ Unit
  | none => return ()
  | some handle => tell (env.closeHandle handle)

/-- The handles are set to null in `closeProcess`. -/
def closeProcessHandlesLocked (processInfo : ProcessInformation) : ManagerAction κ Unit := do
  closeHandle? env processInfo.hThread
  closeHandle? env processInfo.hProcess

def hasExitedLocked : ManagerAction κ Bool := do
  let manager := (← read).manager
  if !manager.hasProcess then return true
  let exited ← ask (env.hasExited manager.processInfo.hProcess)
  if !exited then return false
  let exitCode ← ask (env.exitCode manager.processInfo.hProcess)
  closeProcessHandlesLocked env manager.processInfo
  change (·.closeProcess exitCode)
  return true

def hasLiveProcessLocked : ManagerAction κ Bool := do
  if !(← read).manager.hasProcess then return false
  return !(← hasExitedLocked env)

def probeWorkerLocked : ManagerAction κ WorkerProbeResult := do
  let manager := (← read).manager
  if !manager.hasProcess || manager.workerPort = 0 then return {}
  return readProbe (← ask (env.getHealth manager.workerPort))

/-- The loop of `waitForHealthyWorkerLocked`.  A round sleeps a quarter of a second,
so the deadline bounds the number of rounds. -/
def waitForHealthyRounds : (rounds : Nat) → WorkerProbeResult → ManagerAction κ WorkerProbeResult
  | 0, lastProbe => return lastProbe
  | rounds + 1, lastProbe => do
      if ← ask env.deadlinePassed then return lastProbe
      if !(← hasLiveProcessLocked env) then
        return { lastProbe with status := utf8 "exited" }
      let probe ← probeWorkerLocked env
      if probe.healthy then return probe
      waitForHealthyRounds rounds probe

def waitForHealthyWorkerLocked : ManagerAction κ WorkerProbeResult := do
  let timeout := (← read).manager.startupTimeoutSec
  let probe ← waitForHealthyRounds env (4 * timeout + 1) {}
  if probe.status = utf8 "unreachable" then
    return { probe with status := utf8 "startup_timeout" }
  return probe

/-- A process that does not end in time is terminated. -/
def awaitExitLocked (process : Option Nat) : ManagerAction κ Unit := do
  if ← ask (env.timesOut process) then tell (env.terminateProcess process)

def stopWorkerLocked (reason : StopReason) : ManagerAction κ Unit := do
  let world ← read
  let manager := world.manager
  if !manager.hasProcess then return ()
  update fun world =>
    { world with
      stopped := world.stopped ++
        [{ context := world.context, process := world.started.length, reason }] }
  tell (env.postShutdown manager.workerPort)
  awaitExitLocked env manager.processInfo.hProcess
  let exitCode ← ask (env.exitCode manager.processInfo.hProcess)
  closeProcessHandlesLocked env manager.processInfo
  change (·.closeProcess exitCode)

def allocateLoopbackPort : ManagerAction κ Nat := do
  match ← ask env.bindLoopback with
  | .error message => do
      update ManagerWorld.refuse
      EStateM.throw message
  | .ok port =>
      if port = 0 then
        update ManagerWorld.refuse
        EStateM.throw "Allocated internal worker port was invalid"
      return port

/-- The new process is there: from here on the manager owns it. -/
def WorkerProcessManager.adopt (manager : WorkerProcessManager) (process : Nat × Nat)
    (reason : Bytes) (now : Int) : WorkerProcessManager :=
  { manager with
    processInfo := { hProcess := some process.1, hThread := some process.2 }
    hasProcess := true
    generation := manager.generation + 1
    restartCount := manager.restartCount + 1
    lastRestartReason := reason
    lastRestartTimestamp := now
    lastExitCode := stillActive }

def startWorkerLocked (reason : Bytes) : ManagerAction κ Bool := do
  if (← read).manager.hasProcess then return true
  let port ← allocateLoopbackPort env
  change fun manager => { manager with workerPort := port }
  let commandLine := workerCommandLine (← read).manager port
  match ← ask (env.createProcess commandLine) with
  | .error lastError =>
      update ManagerWorld.refuse
      let now ← ask env.now
      change fun manager =>
        { manager with
          lastRestartReason := reason ++ utf8 ": CreateProcess failed"
          lastRestartTimestamp := now
          lastExitCode := lastError
          workerPort := 0 }
      return false
  | .ok process =>
      let now ← ask env.now
      update fun world =>
        { world with
          manager := world.manager.adopt process reason now
          started := world.started ++ [world.context] }
      let probe ← waitForHealthyWorkerLocked env
      change fun manager => { manager with lastProbe := probe }
      if !probe.healthy then
        stopWorkerLocked env .startupFailed
        return false
      return true

def restartWorkerLocked (reason : Bytes) : ManagerAction κ Bool := do
  stopWorkerLocked env (.restart reason)
  startWorkerLocked env reason

def ensureWorkerReadyLocked (reason : Bytes) : ManagerAction κ Bool := do
  if !(← hasLiveProcessLocked env) then
    startWorkerLocked env (reason ++ utf8 ": process not running")
  else
    let probe ← probeWorkerLocked env
    change fun manager => { manager with lastProbe := probe }
    if probe.healthy then return true
    restartWorkerLocked env (reason ++ utf8 ": " ++ deriveProbeSummary probe)

end Locked

/-! ## Public operations

Each holds the manager's mutex throughout. -/

section Public

variable {κ : Type} (env : ManagerEnvironment κ)

def ensureWorkerReady : ManagerAction κ Bool :=
  ensureWorkerReadyLocked env (utf8 "ensure-ready")

def stop : ManagerAction κ Unit := stopWorkerLocked env .supervisorStop

def restart (reason : Bytes) : ManagerAction κ Unit := do
  let _ ← restartWorkerLocked env reason

def restartIfWorkerUnhealthy (reason : Bytes) : ManagerAction κ Unit := do
  if !(← hasLiveProcessLocked env) then
    restart env (reason ++ utf8 ": process not running")
  else
    let probe ← probeWorkerLocked env
    change fun manager => { manager with lastProbe := probe }
    if !probe.healthy then
      restart env (reason ++ utf8 ": " ++ deriveProbeSummary probe)

structure WorkerRuntimeSnapshot where
  processRunning : Bool
  workerPort : Nat
  generation : UInt64
  restartCount : UInt64
  lastRestartTimestamp : Int
  lastRestartReason : Bytes
  lastExitCode : UInt32
  probe : WorkerProbeResult

def noticeExitLocked : ManagerAction κ Unit := do
  if (← read).manager.hasProcess then
    let _ ← hasExitedLocked env

def snapshotProbeLocked : ManagerAction κ WorkerProbeResult := do
  if (← read).manager.hasProcess then probeWorkerLocked env else return {}

def snapshot : ManagerAction κ WorkerRuntimeSnapshot := do
  noticeExitLocked env
  let manager := (← read).manager
  let probe ← snapshotProbeLocked env
  change fun manager => { manager with lastProbe := probe }
  return {
    processRunning := manager.hasProcess
    workerPort := manager.workerPort
    generation := manager.generation
    restartCount := manager.restartCount
    lastRestartTimestamp := manager.lastRestartTimestamp
    lastRestartReason := manager.lastRestartReason
    lastExitCode := manager.lastExitCode
    probe }

end Public

/-! ## What an operation records -/

section Records

variable {κ : Type} {env : ManagerEnvironment κ}

/-- Nothing was stopped or started in between. -/
structure ManagerWorld.Unrecorded (before after : ManagerWorld κ) : Prop where
  context : after.context = before.context
  called : after.called = before.called
  stopped : after.stopped = before.stopped
  started : after.started = before.started
  refused : after.refused = before.refused

/-- A predicate on what has been recorded. -/
def OnRecords (kept : ManagerWorld κ → Prop) : Prop :=
  ∀ before after, before.Unrecorded after → kept before → kept after

section Quiet

variable {kept : ManagerWorld κ → Prop} (onRecords : OnRecords kept)
include onRecords

theorem OnRecords.ask {α : Type} {thrown : String → ManagerWorld κ → Prop}
    (question : κ → α × κ) : Ensures kept (ask question) (fun _ => kept) thrown :=
  fun world holds => onRecords world _ ⟨rfl, rfl, rfl, rfl, rfl⟩ holds

theorem OnRecords.tell {thrown : String → ManagerWorld κ → Prop} (act : κ → κ) :
    Ensures kept (tell act) (fun _ => kept) thrown :=
  fun world holds => onRecords world _ ⟨rfl, rfl, rfl, rfl, rfl⟩ holds

theorem OnRecords.change {thrown : String → ManagerWorld κ → Prop}
    (change : WorkerProcessManager → WorkerProcessManager) :
    Ensures kept (Supervisor.change change) (fun _ => kept) thrown :=
  fun world holds => onRecords world _ ⟨rfl, rfl, rfl, rfl, rfl⟩ holds

theorem OnRecords.closeProcessHandlesLocked {thrown : String → ManagerWorld κ → Prop}
    (processInfo : ProcessInformation) :
    Ensures kept (closeProcessHandlesLocked env processInfo) (fun _ => kept) thrown := by
  have close (handle : Option Nat) :
      Ensures kept (closeHandle? env handle) (fun _ => kept) thrown := by
    cases handle with
    | none => exact Ensures.pure fun _ => id
    | some handle => exact onRecords.tell _
  exact Ensures.bind (close _) fun _ => close _

theorem OnRecords.awaitExitLocked {thrown : String → ManagerWorld κ → Prop}
    (process : Option Nat) :
    Ensures kept (awaitExitLocked env process) (fun _ => kept) thrown :=
  Ensures.bind (onRecords.ask _) fun _ =>
    Ensures.ite (fun _ => onRecords.tell _) fun _ => Ensures.pure fun _ => id

theorem OnRecords.hasExitedLocked : Keeps kept (hasExitedLocked env) := by
  refine Keeps.bind Ensures.peek fun world => ?_
  refine Keeps.ite (Keeps.pure _) ?_
  refine Keeps.bind (onRecords.ask _) fun exited => ?_
  refine Keeps.ite (Keeps.pure _) ?_
  refine Keeps.bind (onRecords.ask _) fun exitCode => ?_
  refine Keeps.bind (onRecords.closeProcessHandlesLocked _) fun _ => ?_
  exact Keeps.bind (onRecords.change _) fun _ => Keeps.pure _

theorem OnRecords.hasLiveProcessLocked : Keeps kept (hasLiveProcessLocked env) := by
  refine Keeps.bind Ensures.peek fun world => ?_
  refine Keeps.ite (Keeps.pure _) ?_
  exact Keeps.bind onRecords.hasExitedLocked fun exited => Keeps.pure _

theorem OnRecords.probeWorkerLocked : Keeps kept (probeWorkerLocked env) := by
  refine Keeps.bind Ensures.peek fun world => ?_
  refine Keeps.ite (Keeps.pure _) ?_
  exact Keeps.bind (onRecords.ask _) fun reply => Keeps.pure _

theorem OnRecords.waitForHealthyRounds (rounds : Nat) (lastProbe : WorkerProbeResult) :
    Keeps kept (waitForHealthyRounds env rounds lastProbe) := by
  induction rounds generalizing lastProbe with
  | zero => exact Keeps.pure _
  | succ rounds ih =>
      refine Keeps.bind (onRecords.ask _) fun passed => ?_
      refine Keeps.ite (Keeps.pure _) ?_
      refine Keeps.bind onRecords.hasLiveProcessLocked fun live => ?_
      refine Keeps.ite (Keeps.pure _) ?_
      refine Keeps.bind onRecords.probeWorkerLocked fun probe => ?_
      exact Keeps.ite (Keeps.pure _) (ih probe)

theorem OnRecords.waitForHealthyWorkerLocked : Keeps kept (waitForHealthyWorkerLocked env) := by
  refine Keeps.bind Ensures.peek fun world => ?_
  refine Keeps.bind (onRecords.waitForHealthyRounds _ _) fun probe => ?_
  exact Keeps.ite (Keeps.pure _) (Keeps.pure _)

theorem OnRecords.snapshot : Keeps kept (snapshot env) := by
  have noticeExit : Keeps kept (noticeExitLocked env) :=
    Keeps.bind Ensures.peek fun world => Keeps.ite
      (Keeps.bind onRecords.hasExitedLocked fun _ => Keeps.pure _) (Keeps.pure _)
  have probe : Keeps kept (snapshotProbeLocked env) :=
    Keeps.bind Ensures.peek fun world => Keeps.ite onRecords.probeWorkerLocked (Keeps.pure _)
  refine Keeps.bind noticeExit fun _ => ?_
  refine Keeps.bind Ensures.peek fun world => ?_
  refine Keeps.bind probe fun probe => ?_
  exact Keeps.bind (onRecords.change _) fun _ => Keeps.pure _

end Quiet

/-- At most the worker that was found has been stopped. -/
structure ManagerWorld.Stopped (before after : ManagerWorld κ) : Prop where
  context : after.context = before.context
  called : after.called = before.called
  stopped : ∃ records, after.stopped = before.stopped ++ records ∧
    ∀ record ∈ records, record.context = before.context ∧
      record.process = before.started.length
  started : after.started = before.started
  refused : after.refused = before.refused

/-- One process was started, or it was tried and none could be. -/
def ManagerWorld.Attempted (before after : ManagerWorld κ) : Prop :=
  (after.started = before.started ++ [before.context] ∧ after.refused = before.refused) ∨
    (after.started = before.started ∧ after.refused = before.refused ++ [before.context])

/-- What one operation can record: it stops the worker that it found, starts at
most one process, and gives that one up only if it does not become healthy. -/
structure ManagerWorld.Operated (before after : ManagerWorld κ) : Prop where
  context : after.context = before.context
  called : after.called = before.called
  stopped : ∃ records, after.stopped = before.stopped ++ records ∧
    ∀ record ∈ records, record.context = before.context ∧
      (record.process = before.started.length ∨ record.reason = .startupFailed)
  launched : (after.started = before.started ∧ after.refused = before.refused) ∨
    before.Attempted after

structure ManagerWorld.Restarted (before after : ManagerWorld κ) : Prop where
  operated : before.Operated after
  attempted : before.Attempted after

variable {base : ManagerWorld κ}

theorem onRecords_unrecorded : OnRecords base.Unrecorded := by
  rintro before after ⟨context, called, stopped, started, refused⟩ kept
  exact ⟨context.trans kept.context, called.trans kept.called, stopped.trans kept.stopped,
    started.trans kept.started, refused.trans kept.refused⟩

theorem onRecords_stopped : OnRecords base.Stopped := by
  rintro before after ⟨context, called, stopped, started, refused⟩ kept
  exact ⟨context.trans kept.context, called.trans kept.called, stopped ▸ kept.stopped,
    started.trans kept.started, refused.trans kept.refused⟩

theorem onRecords_restarted : OnRecords base.Restarted := by
  rintro before after ⟨context, called, stopped, started, refused⟩ ⟨operated, attempted⟩
  have attemptedAfter : base.Attempted after := by
    rw [ManagerWorld.Attempted, started, refused]
    exact attempted
  exact ⟨⟨context.trans operated.context, called.trans operated.called,
    stopped ▸ operated.stopped, .inr attemptedAfter⟩, attemptedAfter⟩

theorem ManagerWorld.Unrecorded.toStopped {after : ManagerWorld κ}
    (kept : base.Unrecorded after) : base.Stopped after :=
  ⟨kept.context, kept.called, ⟨[], by simpa using kept.stopped, by simp⟩, kept.started,
    kept.refused⟩

theorem ManagerWorld.Stopped.operated {after : ManagerWorld κ} (stopped : base.Stopped after) :
    base.Operated after := by
  obtain ⟨records, added, each⟩ := stopped.stopped
  exact ⟨stopped.context, stopped.called, ⟨records, added, fun record member =>
    ⟨(each record member).1, .inl (each record member).2⟩⟩,
    .inl ⟨stopped.started, stopped.refused⟩⟩

theorem ManagerWorld.Unrecorded.operated {after : ManagerWorld κ}
    (kept : base.Unrecorded after) : base.Operated after :=
  kept.toStopped.operated

/-- An attempt after the old worker may have been stopped. -/
theorem ManagerWorld.Stopped.restarted {before after : ManagerWorld κ}
    (stopped : base.Stopped before) (context : after.context = before.context)
    (called : after.called = before.called) (sameStopped : after.stopped = before.stopped)
    (attempted : before.Attempted after) : base.Restarted after := by
  have attemptedAfter : base.Attempted after := by
    rw [ManagerWorld.Attempted, ← stopped.started, ← stopped.refused, ← stopped.context]
    exact attempted
  exact ⟨⟨context.trans stopped.context, called.trans stopped.called,
    sameStopped ▸ stopped.operated.stopped, .inr attemptedAfter⟩, attemptedAfter⟩

theorem stopWorkerLocked_stopped {thrown : String → ManagerWorld κ → Prop}
    (reason : StopReason) :
    Ensures base.Unrecorded (stopWorkerLocked env reason)
      (fun _ after => base.Stopped after ∧ after.manager.hasProcess = false) thrown := by
  refine Ensures.bind Ensures.read fun world => ?_
  refine Ensures.ite (fun idle => Ensures.pure ?_) fun _ => ?_
  · rintro _ ⟨rfl, kept⟩
    exact ⟨kept.toStopped, by simpa using idle⟩
  refine Ensures.seq (fun _ => base.Stopped) (Ensures.update ?_) fun _ => ?_
  · rintro _ ⟨rfl, kept⟩
    exact ⟨kept.context, kept.called,
      ⟨[_], by rw [kept.stopped], by simp [kept.context, kept.started]⟩, kept.started,
      kept.refused⟩
  refine Ensures.bind (onRecords_stopped.tell _) fun _ => ?_
  refine Ensures.bind (onRecords_stopped.awaitExitLocked _) fun _ => ?_
  refine Ensures.bind (onRecords_stopped.ask _) fun exitCode => ?_
  refine Ensures.bind (onRecords_stopped.closeProcessHandlesLocked _) fun _ => ?_
  exact Ensures.update fun world stopped =>
    ⟨onRecords_stopped world _ ⟨rfl, rfl, rfl, rfl, rfl⟩ stopped, rfl⟩

/-- A process that does not become healthy is given up. -/
theorem stopWorkerLocked_startupFailed :
    Keeps base.Restarted (stopWorkerLocked env .startupFailed) := by
  refine Ensures.bind Ensures.read fun world => ?_
  refine Ensures.ite (fun _ => Ensures.pure fun _ kept => kept.2) fun _ => ?_
  refine Ensures.seq (fun _ => base.Restarted) (Ensures.update ?_) fun _ => ?_
  · rintro _ ⟨rfl, operated, attempted⟩
    obtain ⟨records, added, each⟩ := operated.stopped
    refine ⟨⟨operated.context, operated.called,
      ⟨records ++ [_], by rw [added, List.append_assoc], ?_⟩, .inr attempted⟩, attempted⟩
    intro record member
    rcases List.mem_append.mp member with earlier | last
    · exact each record earlier
    · obtain rfl := List.mem_singleton.mp last
      exact ⟨operated.context, .inr rfl⟩
  refine Keeps.bind (onRecords_restarted.tell _) fun _ => ?_
  refine Keeps.bind (onRecords_restarted.awaitExitLocked _) fun _ => ?_
  refine Keeps.bind (onRecords_restarted.ask _) fun exitCode => ?_
  refine Keeps.bind (onRecords_restarted.closeProcessHandlesLocked _) fun _ => ?_
  exact onRecords_restarted.change _

theorem refuse_restarted {thrown : String → ManagerWorld κ → Prop} :
    Ensures base.Stopped (update ManagerWorld.refuse) (fun _ => base.Restarted) thrown :=
  Ensures.update fun _ stopped => stopped.restarted rfl rfl rfl (.inr ⟨rfl, rfl⟩)

theorem allocateLoopbackPort_attempted :
    Ensures base.Stopped (allocateLoopbackPort env) (fun _ => base.Stopped)
      (fun _ => base.Restarted) := by
  refine Ensures.bind (onRecords_stopped.ask _) fun allocated => ?_
  cases allocated with
  | error message => exact Ensures.bind refuse_restarted fun _ => Ensures.throw fun _ => id
  | ok port =>
      refine Ensures.ite (fun _ => ?_) fun _ => Ensures.pure fun _ => id
      refine Ensures.bind refuse_restarted fun _ => ?_
      exact Ensures.bind (Ensures.throw fun _ => id) fun _ => Ensures.vacuous

/-- Without a process one is started, if Windows does. -/
theorem startWorkerLocked_restarted (reason : Bytes) :
    Ensures (fun world => base.Stopped world ∧ world.manager.hasProcess = false)
      (startWorkerLocked env reason) (fun _ => base.Restarted) (fun _ => base.Restarted) := by
  refine Ensures.bind Ensures.read fun world => ?_
  refine Ensures.ite (fun held => ?_) fun _ => ?_
  · rintro _ ⟨rfl, -, idle⟩
    simp [idle] at held
  refine Ensures.bind (allocateLoopbackPort_attempted.mono (fun _ known => known.2.1)
    (fun _ _ => id) fun _ _ => id) fun port => ?_
  refine Ensures.bind (onRecords_stopped.change _) fun _ => ?_
  refine Ensures.bind Ensures.peek fun world => ?_
  refine Ensures.bind (onRecords_stopped.ask _) fun created => ?_
  cases created with
  | error lastError =>
      refine Ensures.bind refuse_restarted fun _ => ?_
      refine Ensures.bind (onRecords_restarted.ask _) fun now => ?_
      exact Ensures.bind (onRecords_restarted.change _) fun _ => Keeps.pure _
  | ok process =>
      refine Ensures.bind (onRecords_stopped.ask _) fun now => ?_
      refine Ensures.seq (fun _ => base.Restarted) (Ensures.update fun world stopped =>
        stopped.restarted rfl rfl rfl (.inl ⟨rfl, rfl⟩)) fun _ => ?_
      refine Keeps.bind onRecords_restarted.waitForHealthyWorkerLocked fun probe => ?_
      refine Keeps.bind (onRecords_restarted.change _) fun _ => ?_
      refine Keeps.ite ?_ (Keeps.pure _)
      exact Keeps.bind stopWorkerLocked_startupFailed fun _ => Keeps.pure _

theorem startWorkerLocked_operated (reason : Bytes) :
    Ensures base.Stopped (startWorkerLocked env reason) (fun _ => base.Operated)
      (fun _ => base.Operated) := by
  intro world stopped
  cases held : world.manager.hasProcess with
  | false =>
      exact (startWorkerLocked_restarted reason world ⟨stopped, held⟩).mono
        (fun _ _ => ManagerWorld.Restarted.operated) fun _ _ => ManagerWorld.Restarted.operated
  | true =>
      rw [startWorkerLocked, read_bind, if_pos held]
      exact stopped.operated

theorem stop_operated :
    Ensures base.Unrecorded (stop env) (fun _ => base.Operated) (fun _ => base.Operated) :=
  (stopWorkerLocked_stopped _).mono (fun _ kept => kept) (fun _ _ kept => kept.1.operated)
    fun _ _ kept => kept

theorem snapshot_operated :
    Ensures base.Unrecorded (snapshot env) (fun _ => base.Operated) (fun _ => base.Operated) :=
  onRecords_unrecorded.snapshot.mono (fun _ kept => kept) (fun _ _ kept => kept.operated)
    fun _ _ kept => kept.operated

/-- A restart starts a process, if Windows does. -/
theorem restartWorkerLocked_restarted (reason : Bytes) :
    Ensures base.Unrecorded (restartWorkerLocked env reason) (fun _ => base.Restarted)
      (fun _ => base.Restarted) :=
  Ensures.bind (stopWorkerLocked_stopped _) fun _ => startWorkerLocked_restarted reason

theorem restart_restarted (reason : Bytes) :
    Ensures base.Unrecorded (restart env reason) (fun _ => base.Restarted)
      (fun _ => base.Restarted) :=
  Ensures.bind (restartWorkerLocked_restarted reason) fun _ => Keeps.pure _

theorem ensureWorkerReady_operated :
    Ensures base.Unrecorded (ensureWorkerReady env) (fun _ => base.Operated)
      (fun _ => base.Operated) := by
  refine Ensures.bind (onRecords_unrecorded.hasLiveProcessLocked.raise fun _ _ kept => kept.operated)
    fun live => ?_
  refine Ensures.ite (fun _ => ?_) fun _ => ?_
  · exact (startWorkerLocked_operated _).mono (fun _ kept => kept.toStopped)
      (fun _ _ kept => kept) fun _ _ kept => kept
  · refine Ensures.bind (onRecords_unrecorded.probeWorkerLocked.raise fun _ _ kept => kept.operated)
      fun probe => ?_
    refine Ensures.bind (onRecords_unrecorded.change _) fun _ => ?_
    exact Ensures.ite (fun _ => Ensures.pure fun _ kept => kept.operated)
      fun _ => (restartWorkerLocked_restarted _).mono (fun _ kept => kept)
        (fun _ _ => ManagerWorld.Restarted.operated) fun _ _ => ManagerWorld.Restarted.operated

theorem restartIfWorkerUnhealthy_operated (reason : Bytes) :
    Ensures base.Unrecorded (restartIfWorkerUnhealthy env reason) (fun _ => base.Operated)
      (fun _ => base.Operated) := by
  refine Ensures.bind (onRecords_unrecorded.hasLiveProcessLocked.raise fun _ _ kept => kept.operated)
    fun live => ?_
  have restarts (reason : Bytes) : Ensures base.Unrecorded (restart env reason)
      (fun _ => base.Operated) (fun _ => base.Operated) :=
    (restart_restarted reason).mono (fun _ kept => kept)
      (fun _ _ => ManagerWorld.Restarted.operated) fun _ _ => ManagerWorld.Restarted.operated
  refine Ensures.ite (fun _ => restarts _) fun _ => ?_
  refine Ensures.bind (onRecords_unrecorded.probeWorkerLocked.raise fun _ _ kept => kept.operated)
    fun probe => ?_
  refine Ensures.bind (onRecords_unrecorded.change _) fun _ => ?_
  exact Ensures.ite (fun _ => restarts _)
    fun _ => Ensures.pure fun _ kept => kept.operated

end Records

end JVLinkServer.Supervisor
