import JVLinkServer.Transition
import JVLinkServer.Supervisor.StreamingProxy
import JVLinkServer.Supervisor.WorkerProcessManager

namespace JVLinkServer.Supervisor

open Effects Transition

/-! # The supervisor's threads

Connections, stop calls and the outside world take turns.  An operation of the
worker manager is one step, because it holds the manager's mutex; between two
operations of one request anything can happen.
-/

inductive Endpoint
  | standard
  | streaming
  | sessionReset
  | health
  deriving DecidableEq, Repr

/-- A connection serves one request after the other.  `sending` remembers which process had been
started last when the request read the port; the program does not keep it. -/
inductive ConnectionPhase
  | absent
  | idle
  | accepted (endpoint : Endpoint)
  | ready (endpoint : Endpoint)
  | sending (endpoint : Endpoint) (observed : Nat)
  | settling (observed : Nat) (call : ManagerCall)
  | resetting (busy : Bool)
  | restarted
  | closed
  deriving DecidableEq, Repr

/-- A call of `SupervisorHTTPServer::Impl::stop`. -/
inductive StopPhase
  | absent
  | arrived
  | sawRunning
  | closing
  | joining
  | stoppingWorker
  | done
  deriving DecidableEq, Repr

/-- `SupervisorHTTPServer::Impl::start`, which `main` calls once.  `exposing` has set `running_`,
and `spawned` has started the thread that will listen. -/
inductive LaunchPhase
  | idle
  | workerReady
  | exposing
  | spawned
  | serving
  | failed
  deriving DecidableEq, Repr

/-- `stoppedAt` is the number of processes started up to the first time a stop call
stopped the worker. -/
structure SupervisorState (κ : Type) where
  world : ManagerWorld κ
  blocking : Bool
  launch : LaunchPhase := .idle
  running : Bool := false
  listening : Bool := false
  connected : Nat := 0
  connections : Nat → ConnectionPhase := fun _ => .absent
  stops : Nat → StopPhase := fun _ => .absent
  stoppedAt : Option Nat := none

inductive SupervisorAction (κ : Type)
  | worldMoves (env : κ)
  | startWorker
  | startRunning
  | startThread
  | startListening (bound : Bool)
  | connect
  | receive (connection : Nat) (endpoint : Endpoint)
  | disconnect (connection : Nat)
  | ensureReady (connection : Nat)
  | readPort (connection : Nat)
  | upstream (connection : Nat) (call : Option ManagerCall)
  | settle (connection : Nat)
  | resetLook (connection : Nat)
  | resetRestart (connection : Nat)
  | lookAgain (connection : Nat)
  | checkHealth (connection : Nat)
  | stopArrives (stop : Nat)
  | stopCheck (stop : Nat)
  | stopClear (stop : Nat)
  | stopListening (stop : Nat)
  | stopJoin (stop : Nat)
  | stopWorker (stop : Nat)

/-- The part of a connection's life in which the thread pool works on it. -/
def ConnectionPhase.open : ConnectionPhase → Bool
  | .absent | .closed => false
  | _ => true

/-- The request being served may still start a worker. -/
def ConnectionPhase.mayStart : ConnectionPhase → Bool
  | .accepted .health => false
  | .accepted _ | .ready _ | .sending _ _ | .settling _ _ | .resetting _ => true
  | .absent | .idle | .restarted | .closed => false

/-- The process whose port a request has read. -/
def ConnectionPhase.observed? : ConnectionPhase → Option Nat
  | .sending _ observed | .settling observed _ => some observed
  | _ => none

/-- `worker_busy` in `handleSessionReset`; a `busy` member of another type throws. -/
def workerBusy (payload : Json) : Except String Bool :=
  match (payload.member? "session").filter Json.isObject with
  | none => .ok false
  | some session =>
      match session.member? "busy" with
      | none => .ok false
      | some (.bool busy) => .ok busy
      | some _ => .error "[json.exception.type_error.302] type must be boolean"

/-- What `handleSessionReset` does after its first look at the worker. -/
def afterResetLook (before : WorkerRuntimeSnapshot) : ConnectionPhase :=
  match workerBusy before.probe.payload with
  | .error _ => .idle
  | .ok busy =>
      if !before.processRunning || !before.probe.healthy || busy then .resetting busy
      else .restarted

def resetReason (busy : Bool) : Bytes :=
  if busy then utf8 "admin session reset while busy" else utf8 "admin session reset"

namespace SupervisorState

variable {κ : Type} (env : ManagerEnvironment κ)

def setConnection (state : SupervisorState κ) (connection : Nat) (phase : ConnectionPhase) :
    SupervisorState κ :=
  { state with
    connections := fun other => if other = connection then phase else state.connections other }

def setStop (state : SupervisorState κ) (stop : Nat) (phase : StopPhase) : SupervisorState κ :=
  { state with stops := fun other => if other = stop then phase else state.stops other }

/-- The state after a manager operation, which keeps its effects when it throws. -/
def afterCall {α : Type} (state : SupervisorState κ) (cause : Cause) (call : ManagerAction κ α) :
    SupervisorState κ :=
  { state with world := finalState (call (state.world.calledFor env cause)) }

def callValue {α : Type} (state : SupervisorState κ) (cause : Cause) (call : ManagerAction κ α) :
    Option α :=
  match call (state.world.calledFor env cause) with
  | .ok value _ => some value
  | .error _ _ => none

def startWorker (state : SupervisorState κ) : SupervisorState κ :=
  { state.afterCall env .startup (ensureWorkerReady env) with
    launch :=
      if state.callValue env .startup (ensureWorkerReady env) = some true then .workerReady
      else .failed }

/-- `listen` fails when the port cannot be bound. -/
def startListening (state : SupervisorState κ) (bound : Bool) : SupervisorState κ :=
  { state with launch := if bound then .serving else .failed, listening := bound }

def connect (state : SupervisorState κ) : SupervisorState κ :=
  { state.setConnection state.connected .idle with connected := state.connected + 1 }

/-- The first manager call of both proxy paths; without a worker the answer is 503. -/
def ensureReady (state : SupervisorState κ) (connection : Nat) (endpoint : Endpoint) :
    SupervisorState κ :=
  (state.afterCall env .ensureReady (ensureWorkerReady env)).setConnection connection
    (if state.callValue env .ensureReady (ensureWorkerReady env) = some true then .ready endpoint
      else .idle)

def managerCall (observed : Nat) : ManagerCall → Cause × ManagerAction κ Unit
  | .restart reason => (.requestFailure observed, restart env (utf8 reason))
  | .restartIfWorkerUnhealthy reason =>
      (.streamCompleted, restartIfWorkerUnhealthy env (utf8 reason))

def settle (state : SupervisorState κ) (connection observed : Nat) (call : ManagerCall) :
    SupervisorState κ :=
  (state.afterCall env (managerCall env observed call).1 (managerCall env observed call).2)
    |>.setConnection connection .idle

def resetLook (state : SupervisorState κ) (connection : Nat) : SupervisorState κ :=
  (state.afterCall env .sessionReset (snapshot env)).setConnection connection
    (((state.callValue env .sessionReset (snapshot env)).map afterResetLook).getD .idle)

def resetRestart (state : SupervisorState κ) (connection : Nat) (busy : Bool) :
    SupervisorState κ :=
  (state.afterCall env .sessionReset (restart env (resetReason busy))).setConnection connection
    .restarted

def stopWorker (state : SupervisorState κ) (stop : Nat) : SupervisorState κ :=
  let next := (state.afterCall env .shutdown (Supervisor.stop env)).setStop stop .done
  { next with stoppedAt := some (state.stoppedAt.getD next.world.started.length) }

/-- No connection is being served any more, so `listen` can return. -/
def drained (state : SupervisorState κ) : Prop :=
  ∀ connection < state.connected, (state.connections connection).open = false

instance (state : SupervisorState κ) : Decidable state.drained :=
  inferInstanceAs (Decidable (∀ connection < state.connected, _ = false))

end SupervisorState

open SupervisorState in
def supervisorStep {κ : Type} (env : ManagerEnvironment κ) (state : SupervisorState κ) :
    SupervisorAction κ → Option (SupervisorState κ)
  | .worldMoves moved => some { state with world := { state.world with env := moved } }
  | .startWorker =>
      if state.launch = .idle then some (state.startWorker env) else none
  | .startRunning =>
      if state.launch = .workerReady then
        some { state with launch := .exposing, running := true }
      else none
  | .startThread =>
      if state.launch = .exposing ∧ state.blocking = false then
        some { state with launch := .spawned }
      else none
  | .startListening bound =>
      if state.launch = (if state.blocking then .exposing else .spawned) then
        some (state.startListening bound)
      else none
  | .connect => if state.listening then some state.connect else none
  | .receive connection endpoint =>
      -- Data that is already there is served even after the listener has closed.
      if state.connections connection = .idle then
        some (state.setConnection connection (.accepted endpoint))
      else none
  | .disconnect connection =>
      if state.connections connection = .idle then
        some (state.setConnection connection .closed)
      else none
  | .ensureReady connection =>
      match state.connections connection with
      | .accepted .standard => some (state.ensureReady env connection .standard)
      | .accepted .streaming => some (state.ensureReady env connection .streaming)
      | _ => none
  | .readPort connection =>
      match state.connections connection with
      | .ready endpoint =>
          some (state.setConnection connection (.sending endpoint state.world.started.length))
      | _ => none
  | .upstream connection call =>
      match state.connections connection, call with
      | .sending _ _, none => some (state.setConnection connection .idle)
      | .sending _ observed, some (.restart reason) =>
          some (state.setConnection connection (.settling observed (.restart reason)))
      | .sending .streaming observed, some (.restartIfWorkerUnhealthy reason) =>
          some (state.setConnection connection
            (.settling observed (.restartIfWorkerUnhealthy reason)))
      | _, _ => none
  | .settle connection =>
      match state.connections connection with
      | .settling observed call => some (state.settle env connection observed call)
      | _ => none
  | .resetLook connection =>
      match state.connections connection with
      | .accepted .sessionReset => some (state.resetLook env connection)
      | _ => none
  | .resetRestart connection =>
      match state.connections connection with
      | .resetting busy => some (state.resetRestart env connection busy)
      | _ => none
  | .lookAgain connection =>
      match state.connections connection with
      | .restarted =>
          some ((state.afterCall env .sessionReset (snapshot env)).setConnection connection .idle)
      | _ => none
  | .checkHealth connection =>
      match state.connections connection with
      | .accepted .health =>
          some ((state.afterCall env .healthCheck (snapshot env)).setConnection connection .idle)
      | _ => none
  | .stopArrives stop =>
      if state.stops stop = .absent then some (state.setStop stop .arrived) else none
  | .stopCheck stop =>
      if state.stops stop = .arrived then
        some (state.setStop stop (if state.running then .sawRunning else .stoppingWorker))
      else none
  | .stopClear stop =>
      if state.stops stop = .sawRunning then
        some { state.setStop stop .closing with running := false }
      else none
  | .stopListening stop =>
      -- A server that does not listen yet ignores the stop and goes on to listen.
      if state.stops stop = .closing then
        some { state.setStop stop
            (if state.blocking || state.launch = .exposing then .stoppingWorker else .joining) with
          listening := false }
      else none
  | .stopJoin stop =>
      if state.stops stop = .joining ∧ state.launch ≠ .spawned ∧ state.listening = false ∧
          state.drained then
        some (state.setStop stop .stoppingWorker)
      else none
  | .stopWorker stop =>
      if state.stops stop = .stoppingWorker then some (state.stopWorker env stop) else none

/-- The constructor of the server: no worker yet, and nothing listens. -/
def SupervisorState.initial {κ : Type} (sid logLevel executablePath : Bytes)
    (startupTimeoutSec : Nat) (outside : κ) (blocking : Bool) : SupervisorState κ where
  world :=
    { manager := { sid, logLevel, executablePath, startupTimeoutSec }
      env := outside }
  blocking := blocking

/-! ## What a step does to the worker -/

section Calls

variable {κ : Type} {env : ManagerEnvironment κ}

theorem SupervisorState.afterCall_operated {α : Type} (state : SupervisorState κ) (cause : Cause)
    {call : ManagerAction κ α}
    (operates : ∀ base : ManagerWorld κ, Ensures base.Unrecorded call (fun _ => base.Operated)
      (fun _ => base.Operated)) :
    (state.world.calledFor env cause).Operated (state.afterCall env cause call).world :=
  (operates _ _ ⟨rfl, rfl, rfl, rfl, rfl⟩).finalState

theorem SupervisorState.afterCall_restarted (state : SupervisorState κ) (cause : Cause)
    (reason : Bytes) :
    (state.world.calledFor env cause).Restarted
      (state.afterCall env cause (restart env reason)).world :=
  (restart_restarted reason _ ⟨rfl, rfl, rfl, rfl, rfl⟩).finalState

/-- A step leaves the records alone or is one manager operation.  Only settling a
request that has failed is recorded as such, and that restarts the worker. -/
theorem supervisorStep_records {state next : SupervisorState κ} {action : SupervisorAction κ}
    (taken : supervisorStep env state action = some next) :
    state.world.Unrecorded next.world ∨
      (∃ cause, (state.world.calledFor env cause).Operated next.world ∧
        ∀ observed, cause ≠ .requestFailure observed) ∨
      ∃ connection observed reason, action = .settle connection ∧
        state.connections connection = .settling observed (.restart reason) ∧
        (state.world.calledFor env (.requestFailure observed)).Restarted next.world := by
  have same : state.world.Unrecorded state.world := ⟨rfl, rfl, rfl, rfl, rfl⟩
  cases action with
  | worldMoves moved =>
      cases taken
      exact .inl ⟨rfl, rfl, rfl, rfl, rfl⟩
  | startWorker =>
      simp only [supervisorStep, Option.ite_none_right_eq_some, Option.some.injEq] at taken
      obtain ⟨-, rfl⟩ := taken
      exact .inr (.inl ⟨.startup, state.afterCall_operated _ fun _ => ensureWorkerReady_operated,
        by simp⟩)
  | ensureReady connection =>
      simp only [supervisorStep] at taken
      split at taken <;> cases taken
      all_goals
        exact .inr (.inl ⟨.ensureReady,
          state.afterCall_operated _ fun _ => ensureWorkerReady_operated, by simp⟩)
  | settle connection =>
      simp only [supervisorStep] at taken
      split at taken <;> cases taken
      next observed call settling =>
        cases call with
        | restart reason =>
            exact .inr (.inr ⟨connection, observed, reason, rfl, settling,
              state.afterCall_restarted _ _⟩)
        | restartIfWorkerUnhealthy reason =>
            exact .inr (.inl ⟨.streamCompleted,
              state.afterCall_operated _ fun _ => restartIfWorkerUnhealthy_operated _, by simp⟩)
  | resetLook connection | lookAgain connection | checkHealth connection =>
      simp only [supervisorStep] at taken
      split at taken <;> cases taken
      exact .inr (.inl ⟨_, state.afterCall_operated _ fun _ => snapshot_operated, by simp⟩)
  | resetRestart connection =>
      simp only [supervisorStep] at taken
      split at taken <;> cases taken
      exact .inr (.inl ⟨.sessionReset, (state.afterCall_restarted _ _).operated, by simp⟩)
  | stopWorker stop =>
      simp only [supervisorStep, Option.ite_none_right_eq_some, Option.some.injEq] at taken
      obtain ⟨-, rfl⟩ := taken
      exact .inr (.inl ⟨.shutdown, state.afterCall_operated _ fun _ => stop_operated, by simp⟩)
  | startRunning | startThread | startListening | connect | receive | disconnect | stopArrives
  | stopCheck | stopClear | stopListening | stopJoin =>
      simp only [supervisorStep, Option.ite_none_right_eq_some, Option.some.injEq] at taken
      obtain ⟨-, rfl⟩ := taken
      exact .inl same
  | readPort | upstream =>
      simp only [supervisorStep] at taken
      split at taken <;> cases taken
      all_goals exact .inl same

theorem observed?_afterResetLook (before : WorkerRuntimeSnapshot) :
    (afterResetLook before).observed? = none := by
  unfold afterResetLook
  split
  · rfl
  · split <;> rfl

theorem SupervisorState.observed_setConnection {state next : SupervisorState κ}
    {served connection observed : Nat} {phase : ConnectionPhase}
    (connections : next.connections =
      fun other => if other = served then phase else state.connections other)
    (learns : phase.observed? = some observed →
      (state.connections served).observed? = some observed ∨
        observed = state.world.started.length)
    (observes : (next.connections connection).observed? = some observed) :
    (state.connections connection).observed? = some observed ∨
      observed = state.world.started.length := by
  rw [connections] at observes
  by_cases same : connection = served
  · subst same
    exact learns (by simpa using observes)
  · exact .inl (by simpa [same] using observes)

/-- A connection learns of a process by reading the port. -/
theorem supervisorStep_observes {state next : SupervisorState κ} {action : SupervisorAction κ}
    (taken : supervisorStep env state action = some next) {connection observed : Nat}
    (observes : (next.connections connection).observed? = some observed) :
    (state.connections connection).observed? = some observed ∨
      observed = state.world.started.length := by
  cases action with
  | worldMoves moved =>
      cases taken
      exact .inl observes
  | startWorker | startRunning | startThread | startListening | stopArrives | stopCheck
  | stopClear | stopListening | stopJoin | stopWorker =>
      simp only [supervisorStep, Option.ite_none_right_eq_some, Option.some.injEq] at taken
      obtain ⟨-, rfl⟩ := taken
      exact .inl observes
  | connect | receive | disconnect =>
      simp only [supervisorStep, Option.ite_none_right_eq_some, Option.some.injEq] at taken
      obtain ⟨-, rfl⟩ := taken
      exact SupervisorState.observed_setConnection rfl (fun known => by cases known) observes
  | readPort reader =>
      simp only [supervisorStep] at taken
      split at taken <;> cases taken
      refine SupervisorState.observed_setConnection rfl (fun known => .inr ?_) observes
      exact (Option.some.inj known).symm
  | upstream sender call =>
      simp only [supervisorStep] at taken
      split at taken <;> cases taken
      · exact SupervisorState.observed_setConnection rfl (fun known => by cases known) observes
      all_goals
        next sending =>
          refine SupervisorState.observed_setConnection rfl (fun known => .inl ?_) observes
          rw [sending]
          exact known
  | ensureReady asker =>
      simp only [supervisorStep] at taken
      split at taken <;> cases taken
      all_goals
        refine SupervisorState.observed_setConnection rfl (fun known => ?_) observes
        split at known <;> cases known
  | resetLook asker =>
      simp only [supervisorStep] at taken
      split at taken <;> cases taken
      refine SupervisorState.observed_setConnection rfl (fun known => ?_) observes
      cases looked : state.callValue env .sessionReset (snapshot env) with
      | none => simp [looked, ConnectionPhase.observed?] at known
      | some before => simp [looked, observed?_afterResetLook] at known
  | settle | resetRestart | lookAgain | checkHealth =>
      simp only [supervisorStep] at taken
      split at taken <;> cases taken
      exact SupervisorState.observed_setConnection rfl (fun known => by cases known) observes

/-- No process is forgotten. -/
theorem supervisorStep_started {state next : SupervisorState κ} {action : SupervisorAction κ}
    (taken : supervisorStep env state action = some next) :
    state.world.started.length ≤ next.world.started.length := by
  have operated {cause : Cause} (operated : (state.world.calledFor env cause).Operated next.world) :
      state.world.started.length ≤ next.world.started.length := by
    have same : (state.world.calledFor env cause).started = state.world.started := rfl
    obtain ⟨started, -⟩ | ⟨started, -⟩ | ⟨started, -⟩ := operated.launched
    all_goals simp [started, same]
  obtain kept | ⟨cause, called, -⟩ | ⟨_, _, _, -, -, restarted⟩ := supervisorStep_records taken
  · exact kept.started.symm ▸ le_rfl
  · exact operated called
  · exact operated restarted.operated

end Calls

end JVLinkServer.Supervisor
