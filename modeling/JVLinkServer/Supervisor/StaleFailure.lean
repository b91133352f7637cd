import JVLinkServer.Supervisor.SupervisorServer

namespace JVLinkServer.Supervisor

open Transition

/-! # Failures observed on an earlier worker

A request that fails asks for a restart after it has let go of the manager.  By
then another request may have replaced the worker.
-/

section StaleFailure

variable {κ : Type} {env : ManagerEnvironment κ}

/-- The operation was called because of a failure observed on this process. -/
def CallContext.blames (observed : Nat) (context : CallContext) : Bool :=
  context.cause = .requestFailure observed

/-- A failure observed on one process does not stop a healthy later one, and all failures on one
process start one process, unless none could be started for any of them. -/
structure ManagerWorld.SparesHealthy (world : ManagerWorld κ) : Prop where
  spared : ∀ record ∈ world.stopped, ∀ observed,
    record.context.cause = .requestFailure observed → record.reason ≠ .startupFailed →
    observed < record.process → record.context.healthy = false
  once : ∀ observed, world.started.countP (·.blames observed) ≤ 1 ∧
    (world.refused.countP (·.blames observed) < world.called.countP (·.blames observed) →
      world.started.countP (·.blames observed) = 1)

/-- When a failed request restarts the worker, that is still the process the request talked to,
or a later one that is not healthy, and no failure on the former has started a process yet. -/
def FailureIsCurrent (env : ManagerEnvironment κ) (state : SupervisorState κ) :
    SupervisorAction κ → Prop
  | .settle connection =>
      match state.connections connection with
      | .settling observed (.restart _) =>
          state.world.started.length = observed ∨ state.world.healthyWorker env = false ∧
            ∀ context ∈ state.world.started, context.blames observed = false
      | _ => True
  | _ => True

instance (state : SupervisorState κ) (action : SupervisorAction κ) :
    Decidable (FailureIsCurrent env state action) := by
  unfold FailureIsCurrent
  split
  · split <;> infer_instance
  · infer_instance

/-- A failed request that found a healthy worker had talked to that worker. -/
def CallContext.Current (context : CallContext) : Prop :=
  ∀ observed, context.cause = .requestFailure observed → context.healthy = true →
    context.found = observed

/-- The records of a manager none of whose restarts was for a stale failure. -/
structure ManagerWorld.Current (world : ManagerWorld κ) : Prop where
  replaced : ∀ observed, ∀ context ∈ world.started, context.blames observed = true →
    observed < world.started.length
  once : ∀ observed, world.started.countP (·.blames observed) ≤ 1
  answered : ∀ observed, world.called.countP (·.blames observed) =
    world.started.countP (·.blames observed) + world.refused.countP (·.blames observed)
  stopped : ∀ record ∈ world.stopped, record.context.Current ∧
    (record.reason ≠ .startupFailed → record.process = record.context.found)

theorem ManagerWorld.Current.unrecorded {before after : ManagerWorld κ} (current : before.Current)
    (kept : before.Unrecorded after) : after.Current := by
  obtain ⟨-, called, stopped, started, refused⟩ := kept
  refine ⟨?_, ?_, ?_, ?_⟩
  · rw [started]
    exact current.replaced
  · rw [started]
    exact current.once
  · rw [called, started, refused]
    exact current.answered
  · rw [stopped]
    exact current.stopped

/-- What an operation stops is stopped for its own context. -/
theorem ManagerWorld.Current.stops {before after : ManagerWorld κ} {cause : Cause}
    (current : before.Current) (fresh : (before.callContext env cause).Current)
    (operated : (before.calledFor env cause).Operated after) :
    ∀ record ∈ after.stopped, record.context.Current ∧
      (record.reason ≠ .startupFailed → record.process = record.context.found) := by
  obtain ⟨records, added, each⟩ := operated.stopped
  intro record member
  rw [added] at member
  rcases List.mem_append.mp member with earlier | last
  · exact current.stopped record earlier
  · obtain ⟨same, process⟩ := each record last
    rw [same]
    exact ⟨fresh, fun given => process.resolve_right given⟩

theorem ManagerWorld.countP_called (world : ManagerWorld κ) (cause : Cause) (observed : Nat) :
    (world.calledFor env cause).called.countP (·.blames observed) =
      world.called.countP (·.blames observed) +
        if (world.callContext env cause).blames observed then 1 else 0 := by
  simp [ManagerWorld.calledFor, List.countP_append, List.countP_singleton]

/-- An operation that no failed request has called leaves the counts alone. -/
theorem ManagerWorld.Current.operated {before after : ManagerWorld κ} {cause : Cause}
    (current : before.Current) (other : ∀ observed, cause ≠ .requestFailure observed)
    (operated : (before.calledFor env cause).Operated after) : after.Current := by
  have unblamed (observed : Nat) : (before.callContext env cause).blames observed = false :=
    decide_eq_false (other observed)
  have stops := current.stops (fun observed caused => absurd caused (other observed)) operated
  have called (observed : Nat) : after.called.countP (·.blames observed) =
      before.called.countP (·.blames observed) := by
    rw [operated.called, before.countP_called, unblamed]
    simp
  have context : (before.calledFor env cause).context = before.callContext env cause := rfl
  have unchanged : before.started.length ≤ after.started.length ∧ ∀ observed,
      after.started.filter (·.blames observed) = before.started.filter (·.blames observed) ∧
        after.refused.filter (·.blames observed) = before.refused.filter (·.blames observed) := by
    obtain ⟨started, refused⟩ | ⟨started, refused⟩ | ⟨started, refused⟩ := operated.launched
    all_goals
      rw [started, refused]
      simp [ManagerWorld.calledFor, List.filter_append, unblamed]
  obtain ⟨grown, same⟩ := unchanged
  refine ⟨fun observed context member blamed => ?_, fun observed => ?_, fun observed => ?_, stops⟩
  · have earlier : context ∈ before.started.filter (·.blames observed) :=
      (same observed).1 ▸ List.mem_filter.mpr ⟨member, blamed⟩
    exact (current.replaced observed context (List.mem_filter.mp earlier).1 blamed).trans_le grown
  · rw [List.countP_eq_length_filter, (same observed).1, ← List.countP_eq_length_filter]
    exact current.once observed
  · rw [called, List.countP_eq_length_filter (l := after.started), (same observed).1,
      List.countP_eq_length_filter (l := after.refused), (same observed).2,
      ← List.countP_eq_length_filter, ← List.countP_eq_length_filter]
    exact current.answered observed

/-- A failed request that restarts the worker is the first on that process. -/
theorem ManagerWorld.Current.restarted {before after : ManagerWorld κ} {observed : Nat}
    (current : before.Current) (known : observed ≤ before.started.length)
    (allowed : before.started.length = observed ∨ before.healthyWorker env = false ∧
      ∀ context ∈ before.started, context.blames observed = false)
    (restarted : (before.calledFor env (.requestFailure observed)).Restarted after) :
    after.Current := by
  have fresh : (before.callContext env (.requestFailure observed)).Current := by
    rintro _ ⟨⟩ healthy
    obtain same | ⟨unhealthy, -⟩ := allowed
    · exact same
    · exact absurd healthy (by simp [ManagerWorld.callContext, unhealthy])
  have first : before.started.countP (·.blames observed) = 0 := by
    refine List.countP_eq_zero.mpr fun context member blamed => ?_
    obtain same | ⟨-, unanswered⟩ := allowed
    · exact absurd (current.replaced observed context member blamed) (by omega)
    · simp [unanswered context member] at blamed
  have stops := current.stops fresh restarted.operated
  have blames (other : Nat) :
      (before.callContext env (.requestFailure observed)).blames other =
        decide (observed = other) := by
    simp [ManagerWorld.callContext, CallContext.blames]
  have called (other : Nat) : after.called.countP (·.blames other) =
      before.called.countP (·.blames other) + if observed = other then 1 else 0 := by
    rw [restarted.operated.called, before.countP_called, blames]
    simp
  have added (contexts : List CallContext) (other : Nat) :
      (contexts ++ [before.callContext env (.requestFailure observed)]).countP (·.blames other) =
        contexts.countP (·.blames other) + if observed = other then 1 else 0 := by
    simp [List.countP_append, List.countP_singleton, blames]
  obtain ⟨started, refused⟩ | ⟨started, refused⟩ := restarted.attempted
  · replace started : after.started =
        before.started ++ [before.callContext env (.requestFailure observed)] := started
    replace refused : after.refused = before.refused := refused
    refine ⟨fun other context member blamed => ?_, fun other => ?_, fun other => ?_, stops⟩
    · rw [started, List.length_append, List.length_singleton]
      rw [started] at member
      rcases List.mem_append.mp member with earlier | last
      · exact Nat.lt_succ_of_lt (current.replaced other context earlier blamed)
      · obtain rfl := List.mem_singleton.mp last
        rw [blames, decide_eq_true_eq] at blamed
        omega
    · rw [started, added]
      by_cases same : observed = other
      · subst same
        simp [first]
      · simpa [same] using current.once other
    · rw [called, current.answered, started, added, refused]
      omega
  · replace started : after.started = before.started := started
    replace refused : after.refused =
        before.refused ++ [before.callContext env (.requestFailure observed)] := refused
    refine ⟨?_, ?_, fun other => ?_, stops⟩
    · rw [started]
      exact current.replaced
    · rw [started]
      exact current.once
    · rw [called, current.answered, started, refused, added]
      omega

theorem ManagerWorld.Current.sparesHealthy {world : ManagerWorld κ} (current : world.Current) :
    world.SparesHealthy where
  spared record member observed caused given later := by
    obtain ⟨currentContext, found⟩ := current.stopped record member
    cases healthy : record.context.healthy with
    | false => rfl
    | true =>
        have same := currentContext observed caused healthy
        have := found given
        omega
  once observed := by
    have once := current.once observed
    have answered := current.answered observed
    exact ⟨once, fun some => by omega⟩

/-- The processes that connections have talked to were started. -/
structure SupervisorState.Current (state : SupervisorState κ) : Prop where
  world : state.world.Current
  started : ∀ connection observed, (state.connections connection).observed? = some observed →
    observed ≤ state.world.started.length

theorem SupervisorState.Current.step {state next : SupervisorState κ}
    {action : SupervisorAction κ} (current : state.Current)
    (allowed : FailureIsCurrent env state action)
    (taken : supervisorStep env state action = some next) : next.Current := by
  refine ⟨?_, fun connection observed observes => ?_⟩
  · obtain kept | ⟨cause, operated, other⟩ |
        ⟨connection, observed, reason, rfl, settling, restarted⟩ :=
      supervisorStep_records taken
    · exact current.world.unrecorded kept
    · exact current.world.operated other operated
    · refine current.world.restarted (current.started connection observed ?_) ?_ restarted
      · rw [settling]
        rfl
      · simpa only [FailureIsCurrent, settling] using allowed
  · refine le_trans ?_ (supervisorStep_started taken)
    obtain known | rfl := supervisorStep_observes taken observes
    · exact current.started connection observed known
    · exact le_rfl

theorem spares_healthy_worker {schedule : List (SupervisorAction κ)}
    {sid logLevel executablePath : Bytes} {startupTimeoutSec : Nat} {outside : κ} {blocking : Bool}
    {state : SupervisorState κ}
    (along : Along (supervisorStep env) (FailureIsCurrent env)
      (.initial sid logLevel executablePath startupTimeoutSec outside blocking) schedule)
    (ran : run (supervisorStep env)
      (.initial sid logLevel executablePath startupTimeoutSec outside blocking) schedule =
        some state) :
    state.world.SparesHealthy := by
  refine ManagerWorld.Current.sparesHealthy (SupervisorState.Current.world ?_)
  refine run_preserves_along SupervisorState.Current
    (fun _ _ _ current allowed taken => current.step allowed taken) ?_ along ran
  refine ⟨?_, fun connection observed observes => by cases observes⟩
  constructor <;> simp [SupervisorState.initial]

end StaleFailure

/-! ## Two failures on one worker -/

inductive WorkerFate
  | alive
  | crashed
  | exhausted
  deriving DecidableEq, Repr

/-- A world in which a worker process is healthy until it crashes, and in which Windows may run
out of what a new one needs. -/
def crashingWorker : ManagerEnvironment WorkerFate where
  bindLoopback fate := (.ok 50000, fate)
  createProcess _ fate :=
    if fate = .exhausted then (.error 8, fate) else (.ok (1, 2), .alive)
  getHealth _ fate :=
    (if fate = .alive then some { status := 200, body := [] } else none, fate)
  postShutdown _ fate := fate
  hasExited _ fate := (fate ≠ .alive, fate)
  timesOut _ fate := (fate = .alive, fate)
  terminateProcess _ _ := .crashed
  exitCode _ fate := (1, fate)
  closeHandle _ fate := fate
  deadlinePassed fate := (false, fate)
  now fate := (1700000000, fate)

def launched : SupervisorState WorkerFate := .initial [] [] [] 30 .crashed true

/-- The server starts its worker and listens. -/
def startSchedule : List (SupervisorAction WorkerFate) :=
  [.startWorker, .startRunning, .startListening true]

/-- A request that the proxy sends to the worker. -/
def sendSchedule (connection : Nat) : List (SupervisorAction WorkerFate) :=
  [.connect, .receive connection .standard, .ensureReady connection, .readPort connection]

def failSchedule (connection : Nat) : List (SupervisorAction WorkerFate) :=
  [.upstream connection (some (.restart "upstream transport failure for /session")),
    .settle connection]

/-- The worker crashes under two requests. -/
def crashSchedule : List (SupervisorAction WorkerFate) :=
  startSchedule ++ sendSchedule 0 ++ sendSchedule 1 ++ [.worldMoves .crashed]

/-- No process can be started for the first failure, and the second one restarts the worker. -/
def recoverySchedule : List (SupervisorAction WorkerFate) :=
  crashSchedule ++ [.worldMoves .exhausted] ++ failSchedule 0 ++ [.worldMoves .crashed] ++
    failSchedule 1

theorem spares_healthy_worker_two_failures :
    ∃ state, run (supervisorStep crashingWorker) launched recoverySchedule = some state ∧
      state.world.SparesHealthy ∧ state.world.started.countP (·.blames 1) = 1 := by
  have along : Along (supervisorStep crashingWorker) (FailureIsCurrent crashingWorker) launched
      recoverySchedule := by decide
  refine ⟨_, rfl, spares_healthy_worker along rfl, ?_⟩
  decide +kernel

/-- The second failure stops the worker that the first one has just started. -/
theorem stale_failure_stops_healthy_worker :
    ¬ ∀ schedule state, run (supervisorStep crashingWorker) launched schedule = some state →
      state.world.SparesHealthy := by
  intro spares
  have spared := (spares (crashSchedule ++ failSchedule 0 ++ failSchedule 1) _ rfl).spared
    { context := { cause := .requestFailure 1, found := 2, healthy := true }
      process := 2
      reason := .restart (utf8 "upstream transport failure for /session") }
    (by decide +kernel) 1 rfl (by decide +kernel) (by decide +kernel)
  exact absurd spared (by decide)

end JVLinkServer.Supervisor
