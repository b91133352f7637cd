import JVLinkServer.Supervisor.StaleFailure

namespace JVLinkServer.Supervisor

open Effects Transition

/-! # Shutdown

`stop` closes the listener and stops the worker.  Run from `main` the server blocks
in `listen` and has no thread of its own to join, so requests may still be on
their way when the worker goes.
-/

section Shutdown

variable {κ : Type} {env : ManagerEnvironment κ}

/-- No process has been started since a stop call first stopped the worker. -/
def SupervisorState.ShutdownFinal (state : SupervisorState κ) : Prop :=
  ∀ count, state.stoppedAt = some count → state.world.started.length = count

/-- When a stop call stops the worker, `start` has brought it up and no request is being served
that may start another, and none is received afterwards.  A connection may be kept open, and
`/health` may be asked at any time. -/
def QuietFromStop (state : SupervisorState κ) : SupervisorAction κ → Prop
  | .stopWorker _ => state.launch ≠ .idle ∧
      ∀ connection < state.connected, (state.connections connection).mayStart = false
  | .receive _ endpoint => state.stoppedAt = none ∨ endpoint = .health
  | _ => True

instance (state : SupervisorState κ) :
    (action : SupervisorAction κ) → Decidable (QuietFromStop state action)
  | .stopWorker _ =>
      inferInstanceAs (Decidable (_ ∧ ∀ connection < state.connected, _ = false))
  | .receive _ _ => inferInstanceAs (Decidable (_ ∨ _))
  | .worldMoves _ | .startWorker | .startRunning | .startThread | .startListening _ | .connect
  | .disconnect _ | .ensureReady _ | .readPort _ | .upstream _ _ | .settle _ | .resetLook _
  | .resetRestart _ | .lookAgain _ | .checkHealth _ | .stopArrives _ | .stopCheck _
  | .stopClear _ | .stopListening _ | .stopJoin _ => .isTrue trivial

/-! ## Who can still act -/

/-- What a step needs and touches. -/
inductive SupervisorMove (env : ManagerEnvironment κ) (state next : SupervisorState κ) :
    SupervisorAction κ → Prop
  | elsewhere {action} (connected : next.connected = state.connected)
      (connections : next.connections = state.connections)
      (launch : next.launch = .idle → state.launch = .idle)
      (stoppedAt : next.stoppedAt = state.stoppedAt)
      (started : next.world.started = state.world.started) :
      SupervisorMove env state next action
  | launches {action} (launching : state.launch = .idle)
      (connected : next.connected = state.connected)
      (connections : next.connections = state.connections)
      (stoppedAt : next.stoppedAt = state.stoppedAt) :
      SupervisorMove env state next action
  | connects (same : next = state.connect) : SupervisorMove env state next .connect
  | receives (connection : Nat) (endpoint : Endpoint)
      (serving : (state.connections connection).open = true)
      (same : next = state.setConnection connection (.accepted endpoint)) :
      SupervisorMove env state next (.receive connection endpoint)
  | ends {action} (connection : Nat) (phase : ConnectionPhase)
      (serving : (state.connections connection).open = true) (answered : phase.mayStart = false)
      (connected : next.connected = state.connected)
      (connections : next.connections =
        fun other => if other = connection then phase else state.connections other)
      (launch : next.launch = state.launch) (stoppedAt : next.stoppedAt = state.stoppedAt)
      (started : next.world.started = state.world.started) :
      SupervisorMove env state next action
  | serves {action phase} (connection : Nat)
      (serving : (state.connections connection).mayStart = true)
      (connected : next.connected = state.connected)
      (connections : next.connections =
        fun other => if other = connection then phase else state.connections other)
      (stoppedAt : next.stoppedAt = state.stoppedAt) :
      SupervisorMove env state next action
  | stopsWorker {stop} (same : next = state.stopWorker env stop) :
      SupervisorMove env state next (.stopWorker stop)

theorem open_of_mayStart {phase : ConnectionPhase} (serving : phase.mayStart = true) :
    phase.open = true := by
  cases phase <;> first | rfl | cases serving

/-- A look at the worker starts none. -/
theorem SupervisorState.afterCall_snapshot (state : SupervisorState κ) (cause : Cause) :
    (state.afterCall env cause (snapshot env)).world.started = state.world.started :=
  (onRecords_unrecorded.snapshot (state.world.calledFor env cause)
    ⟨rfl, rfl, rfl, rfl, rfl⟩).finalState.started

theorem supervisorStep_moves {state next : SupervisorState κ} {action : SupervisorAction κ}
    (taken : supervisorStep env state action = some next) :
    SupervisorMove env state next action := by
  cases action with
  | worldMoves moved =>
      cases taken
      exact .elsewhere rfl rfl id rfl rfl
  | startWorker =>
      simp only [supervisorStep, Option.ite_none_right_eq_some, Option.some.injEq] at taken
      obtain ⟨launching, rfl⟩ := taken
      exact .launches launching rfl rfl rfl
  | startRunning | startThread =>
      simp only [supervisorStep, Option.ite_none_right_eq_some, Option.some.injEq] at taken
      obtain ⟨-, rfl⟩ := taken
      exact .elsewhere rfl rfl (fun idle => by cases idle) rfl rfl
  | startListening bound =>
      simp only [supervisorStep, Option.ite_none_right_eq_some, Option.some.injEq] at taken
      obtain ⟨-, rfl⟩ := taken
      refine .elsewhere rfl rfl (fun idle => ?_) rfl rfl
      cases bound <;> cases idle
  | connect =>
      simp only [supervisorStep, Option.ite_none_right_eq_some, Option.some.injEq] at taken
      obtain ⟨-, rfl⟩ := taken
      exact .connects rfl
  | receive connection endpoint =>
      simp only [supervisorStep, Option.ite_none_right_eq_some, Option.some.injEq] at taken
      obtain ⟨idle, rfl⟩ := taken
      exact .receives connection endpoint (by simp [idle, ConnectionPhase.open]) rfl
  | disconnect connection =>
      simp only [supervisorStep, Option.ite_none_right_eq_some, Option.some.injEq] at taken
      obtain ⟨idle, rfl⟩ := taken
      exact .ends connection .closed (by simp [idle, ConnectionPhase.open]) rfl rfl rfl rfl rfl rfl
  | ensureReady connection | readPort connection | upstream connection | settle connection
  | resetLook connection | resetRestart connection =>
      simp only [supervisorStep] at taken
      split at taken <;> cases taken
      all_goals
        next phase =>
          exact .serves connection (by simp [phase, ConnectionPhase.mayStart]) rfl rfl rfl
  | lookAgain connection | checkHealth connection =>
      simp only [supervisorStep] at taken
      split at taken <;> cases taken
      next phase =>
        exact .ends connection .idle (by simp [phase, ConnectionPhase.open]) rfl rfl rfl rfl rfl
          (state.afterCall_snapshot _)
  | stopArrives | stopCheck | stopClear | stopListening | stopJoin =>
      simp only [supervisorStep, Option.ite_none_right_eq_some, Option.some.injEq] at taken
      obtain ⟨-, rfl⟩ := taken
      exact .elsewhere rfl rfl id rfl rfl
  | stopWorker stop =>
      simp only [supervisorStep, Option.ite_none_right_eq_some, Option.some.injEq] at taken
      obtain ⟨-, rfl⟩ := taken
      exact .stopsWorker rfl

theorem stopWorker_started (state : SupervisorState κ) (stop : Nat) :
    (state.stopWorker env stop).world.started = state.world.started := by
  have ended : Ends (fun _ => (state.world.calledFor env .shutdown).Stopped)
      (fun _ => (state.world.calledFor env .shutdown).Stopped)
      (Supervisor.stop env (state.world.calledFor env .shutdown)) :=
    (stopWorkerLocked_stopped .supervisorStop _ ⟨rfl, rfl, rfl, rfl, rfl⟩).mono
      (fun _ _ kept => kept.1) fun _ _ kept => kept
  exact ended.finalState.started

/-- Connections are numbered in the order in which they come. -/
def SupervisorState.Numbered (state : SupervisorState κ) : Prop :=
  ∀ connection, state.connected ≤ connection → (state.connections connection).open = false

theorem SupervisorState.Numbered.step {state next : SupervisorState κ}
    {action : SupervisorAction κ} (numbered : state.Numbered)
    (taken : supervisorStep env state action = some next) : next.Numbered := by
  have served {phase : ConnectionPhase} (connection : Nat)
      (serving : (state.connections connection).open = true)
      (connected : next.connected = state.connected)
      (connections : next.connections =
        fun other => if other = connection then phase else state.connections other) :
      next.Numbered := by
    intro other later
    have closed := numbered other (connected ▸ later)
    have different : other ≠ connection := by
      rintro rfl
      simp [serving] at closed
    simpa [connections, different] using closed
  cases supervisorStep_moves taken with
  | elsewhere connected connections | launches _ connected connections =>
      intro connection later
      rw [connections]
      exact numbered connection (connected ▸ later)
  | connects same =>
      subst same
      intro connection later
      change state.connected + 1 ≤ connection at later
      have other : connection ≠ state.connected := by omega
      simpa [SupervisorState.connect, SupervisorState.setConnection, other] using
        numbered connection (by omega)
  | receives connection endpoint serving same =>
      subst same
      exact served connection serving rfl rfl
  | ends connection phase serving _ connected connections =>
      exact served connection serving connected connections
  | serves connection serving connected connections =>
      exact served connection (open_of_mayStart serving) connected connections
  | stopsWorker same =>
      subst same
      exact numbered

/-- Once the worker has been stopped, nothing is left that could ask for another. -/
structure SupervisorState.Final (state : SupervisorState κ) (count : Nat) : Prop where
  stopped : state.stoppedAt ≠ none
  launched : state.launch ≠ .idle
  quiet : ∀ connection, (state.connections connection).mayStart = false
  started : state.world.started.length = count

theorem SupervisorState.Final.step {state next : SupervisorState κ} {count : Nat}
    {action : SupervisorAction κ} (final : state.Final count)
    (allowed : QuietFromStop state action)
    (taken : supervisorStep env state action = some next) : next.Final count := by
  have quietly {phase : ConnectionPhase} (connection : Nat) (answered : phase.mayStart = false)
      (other : Nat) :
      (if other = connection then phase else state.connections other).mayStart = false := by
    split
    · exact answered
    · exact final.quiet other
  cases supervisorStep_moves taken with
  | elsewhere connected connections launch stoppedAt started =>
      exact ⟨stoppedAt ▸ final.stopped, fun idle => final.launched (launch idle),
        connections ▸ final.quiet, started ▸ final.started⟩
  | launches launching => exact absurd launching final.launched
  | connects same =>
      subst same
      exact ⟨final.stopped, final.launched, quietly state.connected rfl, final.started⟩
  | receives connection endpoint _ same =>
      subst same
      obtain rfl : endpoint = .health := allowed.resolve_left final.stopped
      exact ⟨final.stopped, final.launched, quietly connection rfl, final.started⟩
  | ends connection phase _ answered _ connections launch stoppedAt started =>
      refine ⟨stoppedAt ▸ final.stopped, launch ▸ final.launched, ?_, started ▸ final.started⟩
      rw [connections]
      exact quietly connection answered
  | serves connection serving => simp [final.quiet] at serving
  | stopsWorker same =>
      subst same
      exact ⟨by simp [SupervisorState.stopWorker], final.launched, final.quiet,
        by rw [stopWorker_started]; exact final.started⟩

/-- The step that stops the worker for the first time makes the state final. -/
theorem SupervisorState.Numbered.stopWorker {state : SupervisorState κ} {stop : Nat}
    (numbered : state.Numbered) (allowed : QuietFromStop state (.stopWorker stop)) :
    (state.stopWorker env stop).Final state.world.started.length := by
  obtain ⟨launched, quiet⟩ := allowed
  refine ⟨by simp [SupervisorState.stopWorker], launched, fun connection => ?_,
    by rw [stopWorker_started]⟩
  by_cases known : connection < state.connected
  · exact quiet connection known
  · have closed := numbered connection (by omega)
    cases serving : (state.connections connection).mayStart with
    | false => exact serving
    | true => simp [open_of_mayStart serving] at closed

theorem stoppedAt_first {state next : SupervisorState κ} {action : SupervisorAction κ} {count : Nat}
    (taken : supervisorStep env state action = some next) (stopped : next.stoppedAt = some count) :
    state.stoppedAt = some count ∨ state.stoppedAt = none ∧ count = state.world.started.length ∧
      ∃ stop, action = .stopWorker stop ∧ next = state.stopWorker env stop := by
  cases supervisorStep_moves taken with
  | elsewhere _ _ _ same | launches _ _ _ same | ends _ _ _ _ _ _ _ same | serves _ _ _ _ same =>
      exact .inl (same ▸ stopped)
  | connects same | receives _ _ _ same =>
      subst same
      exact .inl stopped
  | @stopsWorker stop same =>
      have recorded : next.stoppedAt =
          some (state.stoppedAt.getD (state.stopWorker env stop).world.started.length) :=
        congrArg SupervisorState.stoppedAt same
      rw [stopWorker_started, stopped] at recorded
      cases before : state.stoppedAt with
      | some earlier => exact .inl (by simpa [before] using recorded.symm)
      | none => exact .inr ⟨rfl, by simpa [before] using recorded, stop, rfl, same⟩

theorem shutdown_final {schedule : List (SupervisorAction κ)}
    {sid logLevel executablePath : Bytes} {startupTimeoutSec : Nat} {outside : κ} {blocking : Bool}
    {state : SupervisorState κ}
    (along : Along (supervisorStep env) QuietFromStop
      (.initial sid logLevel executablePath startupTimeoutSec outside blocking) schedule)
    (ran : run (supervisorStep env)
      (.initial sid logLevel executablePath startupTimeoutSec outside blocking) schedule =
        some state) :
    state.ShutdownFinal := by
  have kept : state.Numbered ∧ ∀ count, state.stoppedAt = some count → state.Final count := by
    refine run_preserves_along (fun state : SupervisorState κ =>
      state.Numbered ∧ ∀ count, state.stoppedAt = some count → state.Final count)
      ?_ ⟨fun _ _ => rfl, by simp [SupervisorState.initial]⟩ along ran
    intro state action next kept allowed taken
    obtain ⟨numbered, final⟩ := kept
    refine ⟨numbered.step taken, fun count stopped => ?_⟩
    rcases stoppedAt_first taken stopped with earlier | ⟨-, rfl, stop, rfl, rfl⟩
    · exact (final count earlier).step allowed taken
    · exact numbered.stopWorker allowed
  exact fun count stopped => (kept.2 count stopped).started

end Shutdown

/-! ## Requests under way -/

/-- The server stops its listener and goes on to the worker. -/
def stopSchedule : List (SupervisorAction WorkerFate) :=
  [.stopArrives 0, .stopCheck 0, .stopClear 0, .stopListening 0]

/-- Two clients are served and one of them leaves.  The other asks for `/health` when the worker
has been stopped. -/
def servedSchedule : List (SupervisorAction WorkerFate) :=
  startSchedule ++ sendSchedule 0 ++ sendSchedule 1 ++
    [.upstream 0 none, .disconnect 0, .upstream 1 none] ++ stopSchedule ++
    [.stopWorker 0, .receive 1 .health, .checkHealth 1, .disconnect 1]

theorem shutdown_final_served :
    ∃ state, run (supervisorStep crashingWorker) launched servedSchedule = some state ∧
      state.ShutdownFinal := by
  have along : Along (supervisorStep crashingWorker) QuietFromStop launched servedSchedule := by
    decide
  exact ⟨_, rfl, shutdown_final along rfl⟩

/-- A request that was under way takes the stop of the worker for a failure and
starts another one. -/
theorem shutdown_restarts_worker :
    ¬ ∀ schedule state, run (supervisorStep crashingWorker) launched schedule = some state →
      state.ShutdownFinal := by
  intro final
  have counted := final (startSchedule ++ sendSchedule 0 ++ stopSchedule ++ [.stopWorker 0] ++
    failSchedule 0) _ rfl 1 rfl
  exact absurd counted (by decide)

end JVLinkServer.Supervisor
