import JVLinkServer.Client.ProcessManager

namespace JVLinkServer.Client

open Coroutines Effects ProcessManager

/-! # Orphaned servers

A server that `start` spawned and did not hand over is stopped unless what leaves is a
cancellation, comes out of the settling pause, or comes out of the stopping itself.
-/

/-- The clean-up of the process has run. -/
def Released (log : List ServerEvent) (process : Nat) : Prop :=
  (∃ url, .shutdownRequested url ∈ log) ∧ (.exited process ∈ log ∨ .terminated process ∈ log)

/-- If the call raised, the processes that it spawned have been stopped. -/
def NoOrphan : EStateM.Result (Raised Failure) RuntimeState Unit → Prop
  | .ok _ _ => True
  | .error _ after =>
      ∀ process arguments, .spawned process arguments ∈ after.log → Released after.log process

def Unspawned (log : List ServerEvent) : Prop :=
  ∀ process arguments, .spawned process arguments ∉ log

theorem NoOrphan.of_unspawned {result : EStateM.Result (Raised Failure) RuntimeState Unit}
    (none : Unspawned (finalState result).log) : NoOrphan result := by
  cases result with
  | ok value after => trivial
  | error raised after => exact fun process arguments spawned => absurd spawned (none _ _)

/-! ## The wait -/

/-- The wait goes on to the next attempt. -/
def Attempt.GoesOn (attempt : Attempt) : Prop :=
  healthCheck attempt = .ok false ∧ attempt.pause = .ok ()

/-- An attempt that is made satisfies the condition. -/
def Reaches (decides : Attempt → Prop) (attempts : List Attempt) : Prop :=
  ∃ earlier attempt later, attempts = earlier ++ attempt :: later ∧
    (∀ passed ∈ earlier, passed.GoesOn) ∧ decides attempt

/-- The server was found healthy. -/
def Answered : List Attempt → Prop := Reaches fun attempt => healthCheck attempt = .ok true

/-- The task was cancelled during the wait. -/
def Interrupted : List Attempt → Prop :=
  Reaches fun attempt => healthCheck attempt = .error .cancelled ∨
    healthCheck attempt = .ok false ∧ attempt.pause = .error .cancelled

theorem not_reaches_nil {decides : Attempt → Prop} : ¬ Reaches decides [] := by
  rintro ⟨earlier, attempt, later, same, _⟩
  simp at same

theorem reaches_cons {decides : Attempt → Prop} {attempt : Attempt} {attempts : List Attempt} :
    Reaches decides (attempt :: attempts) ↔
      decides attempt ∨ attempt.GoesOn ∧ Reaches decides attempts := by
  constructor
  · rintro ⟨earlier, reached, later, same, passed, decided⟩
    cases earlier with
    | nil =>
        cases same
        exact .inl decided
    | cons first earlier =>
        cases same
        exact .inr ⟨passed _ (by simp), earlier, reached, later, rfl,
          fun other member => passed other (by simp [member]), decided⟩
  · rintro (decided | ⟨goesOn, earlier, reached, later, rfl, passed, decided⟩)
    · exact ⟨[], attempt, attempts, rfl, by simp, decided⟩
    · refine ⟨attempt :: earlier, reached, later, rfl, fun other member => ?_, decided⟩
      rcases List.mem_cons.mp member with rfl | member
      · exact goesOn
      · exact passed other member

theorem waitForServer_iff (config : JVServerConfig) (attempts : List Attempt) :
    (waitForServer config attempts = .ok () ↔ Answered attempts) ∧
      (waitForServer config attempts = .error .cancelled ↔ Interrupted attempts) := by
  induction attempts with
  | nil => simp [waitForServer, Answered, Interrupted, not_reaches_nil]
  | cons attempt attempts ih =>
      simp only [Answered, Interrupted] at ih
      rw [Answered, Interrupted, reaches_cons, reaches_cons, waitForServer]
      cases check : healthCheck attempt with
      | error raised => simp [Attempt.GoesOn, check, bind, Except.bind]
      | ok healthy =>
          cases healthy with
          | true => simp [Attempt.GoesOn, check, bind, Except.bind, pure, Except.pure]
          | false =>
              cases pause : attempt.pause with
              | error raised => simp [Attempt.GoesOn, check, pause, bind, Except.bind]
              | ok value =>
                  simpa [Attempt.GoesOn, check, pause, bind, Except.bind] using ih

/-! ## Stopping -/

/-- The graceful part is not cancelled. -/
def StopOutcomes.Requested (stopping : StopOutcomes) : Prop :=
  stopping.request ≠ .error .cancelled ∧
    (stopping.request = .ok () → stopping.pause ≠ .error .cancelled)

/-- The clean-up comes to a process that has exited or was terminated. -/
def StopOutcomes.Completes (stopping : StopOutcomes) : Prop :=
  stopping.Requested ∧ (stopping.exited = true ∨ stopping.terminate = .ok ())

variable {python : PythonStr} {config : JVServerConfig} {surroundings : Surroundings}
  {state : RuntimeState} {process : Nat}

variable (config surroundings state) in
theorem requestShutdown_cases :
    ∃ url, surroundings.stopping.Requested ∧
        requestShutdown config surroundings state = .ok () (state.note (.shutdownRequested url)) ∨
      ¬ surroundings.stopping.Requested ∧
        requestShutdown config surroundings state =
          .error .cancelled (state.note (.shutdownRequested url)) := by
  refine ⟨baseUrl config ++ buildUrl config (utf8 "/shutdown"), ?_⟩
  unfold requestShutdown StopOutcomes.Requested
  cases surroundings.stopping.request with
  | error raised =>
      cases raised with
      | error exception => exact .inl ⟨by simp, catchingAll_of_error rfl⟩
      | cancelled => exact .inr ⟨by simp, catching_of_cancelled rfl⟩
  | ok value =>
      cases surroundings.stopping.pause with
      | ok value => exact .inl ⟨by simp, catching_of_ok rfl⟩
      | error raised =>
          cases raised with
          | error exception => exact .inl ⟨by simp, catchingAll_of_error rfl⟩
          | cancelled => exact .inr ⟨by simp, catching_of_cancelled rfl⟩

/-- What ending the process adds to the log. -/
structure EndEvents (stopping : StopOutcomes) (process : Nat) (events : List ServerEvent) :
    Prop where
  unspawned : Unspawned events
  ended : (.exited process ∈ events ∨ .terminated process ∈ events) ↔
    (stopping.exited = true ∨ stopping.terminate = .ok ())

variable (surroundings state process) in
/-- What follows `terminate` can only add that the process was killed. -/
theorem wait_events :
    ∃ killed, (killed = [] ∨ killed = [.killed process]) ∧
      (finalState (catching Failure.isTimeoutError (comesTo surroundings.stopping.wait)
        (fun _ => do
          comesTo (synchronous surroundings.stopping.kill)
          note (.killed process)
          comesTo surroundings.stopping.lastWait) state)).log = state.log ++ killed := by
  have unchanged : state.log = state.log ++ [] := (List.append_nil _).symm
  cases surroundings.stopping.wait with
  | ok value => exact ⟨[], .inl rfl, unchanged⟩
  | error raised =>
      cases raised with
      | cancelled => exact ⟨[], .inl rfl, unchanged⟩
      | error exception =>
          cases exception with
          | jvLink error => exact ⟨[], .inl rfl, unchanged⟩
          | other text => exact ⟨[], .inl rfl, unchanged⟩
          | timeoutError =>
              cases surroundings.stopping.kill with
              | error exception => exact ⟨[], .inl rfl, unchanged⟩
              | ok value =>
                  refine ⟨[.killed process], .inr rfl, ?_⟩
                  cases surroundings.stopping.lastWait <;> rfl

variable (surroundings state process) in
theorem endProcess_events :
    ∃ events, EndEvents surroundings.stopping process events ∧
      (finalState (endProcess surroundings process state)).log = state.log ++ events := by
  unfold endProcess
  cases exited : surroundings.stopping.exited with
  | true => exact ⟨[.exited process], ⟨by simp [Unspawned], by simp [exited]⟩, rfl⟩
  | false =>
      cases terminated : surroundings.stopping.terminate with
      | error exception =>
          exact ⟨[], ⟨by simp [Unspawned], by simp [exited, terminated]⟩,
            (List.append_nil _).symm⟩
      | ok value =>
          obtain ⟨killed, which, logged⟩ := wait_events surroundings
            (state.note (.terminated process)) process
          refine ⟨.terminated process :: killed, ⟨?_, by simp [terminated]⟩, ?_⟩
          · rcases which with rfl | rfl <;> simp [Unspawned]
          · refine Eq.trans logged ?_
            simp [RuntimeState.note]

/-- What stopping adds to the log. -/
structure StopEvents (stopping : StopOutcomes) (process : Nat) (events : List ServerEvent) :
    Prop where
  unspawned : Unspawned events
  requested : ∃ url, .shutdownRequested url ∈ events
  ended : (.exited process ∈ events ∨ .terminated process ∈ events) ↔ stopping.Completes

variable (config surroundings) in
theorem stopServer_events (held : state.serverProcess = some process) :
    ∃ events, StopEvents surroundings.stopping process events ∧
      (finalState (stopServer config surroundings state)).log = state.log ++ events := by
  have stopped : stopServer config surroundings state =
      finishing (do requestShutdown config surroundings; endProcess surroundings process)
        (update fun state => { state with serverProcess := none }) state :=
    read_bind.trans (by simp only [held])
  rw [stopped, finalState_finishing]
  obtain ⟨url, ⟨requested, called⟩ | ⟨cancelled, called⟩⟩ :=
    requestShutdown_cases config surroundings state
  · rw [bind_of_ok called]
    obtain ⟨events, ⟨unspawned, ended⟩, logged⟩ := endProcess_events surroundings
      (state.note (.shutdownRequested url)) process
    refine ⟨.shutdownRequested url :: events, ⟨?_, ⟨url, by simp⟩, ?_⟩, ?_⟩
    · simpa [Unspawned] using unspawned
    · simpa [StopOutcomes.Completes, requested] using ended
    · refine Eq.trans logged ?_
      simp [RuntimeState.note]
  · rw [bind_of_error called]
    refine ⟨[.shutdownRequested url], ⟨by simp [Unspawned], ⟨url, by simp⟩, ?_⟩, rfl⟩
    simp [StopOutcomes.Completes, cancelled]

/-! ## Starting -/

/-- The call spawns the process. -/
structure Spawns (config : JVServerConfig) (surroundings : Surroundings) (process : Nat) :
    Prop where
  unanswered : (probeServer surroundings.probe).1 = false
  here : isLocal config = true
  windows : surroundings.windows = true
  found : ∃ serverExe, findServerExecutable surroundings = .ok serverExe
  executableExists : surroundings.executableExists = true
  popen : surroundings.popen = .ok process

/-- The state when the process has been spawned. -/
def Spawned (before after : RuntimeState) (process : Nat) : Prop :=
  ∃ arguments, after =
    { before.note (.spawned process arguments) with serverProcess := some process }

/-- How the part of `start` before the wait ends. -/
inductive Ensured (config : JVServerConfig) (surroundings : Surroundings)
    (before : RuntimeState) : EStateM.Result (Raised Failure) RuntimeState Bool → Prop
  | found (unspawned : ∀ process, ¬ Spawns config surroundings process) :
      Ensured config surroundings before (.ok false before)
  | failed {raised} (unspawned : ∀ process, ¬ Spawns config surroundings process) :
      Ensured config surroundings before (.error raised before)
  | spawned {process after} (spawns : Spawns config surroundings process)
      (spawned : Spawned before after process) (settled : surroundings.settling = .ok ()) :
      Ensured config surroundings before (.ok true after)
  | unsettled {process after raised} (spawns : Spawns config surroundings process)
      (spawned : Spawned before after process) (unsettled : surroundings.settling ≠ .ok ()) :
      Ensured config surroundings before (.error raised after)

theorem startServer_ensured (unanswered : (probeServer surroundings.probe).1 = false)
    (here : isLocal config = true) (windows : surroundings.windows = true) :
    Ensured config surroundings state
      ((startServer config surroundings >>= fun _ => pure true) state) := by
  cases found : findServerExecutable surroundings with
  | error exception =>
      have ended : startServer config surroundings state = .error (.error exception) state := by
        simp only [startServer, found]
        rfl
      rw [bind_of_error ended]
      refine .failed fun process spawns => ?_
      obtain ⟨serverExe, also⟩ := spawns.found
      simp [found] at also
  | ok serverExe =>
      cases present : surroundings.executableExists with
      | false =>
          have ended : startServer config surroundings state = .error (.error (failure .serverError
              (utf8 "Server executable not found: " ++ serverExe))) state := by
            simp only [startServer, found, present]
            rfl
          rw [bind_of_error ended]
          refine .failed fun process spawns => ?_
          have also := spawns.executableExists
          simp [present] at also
      | true =>
          cases popen : surroundings.popen with
          | error exception =>
              have ended : startServer config surroundings state = .error (.error (failure
                  .serverError (utf8 "Failed to start server: " ++ exception.text))) state := by
                simp only [startServer, found, present, popen]
                rfl
              rw [bind_of_error ended]
              refine .failed fun process spawns => ?_
              have also := spawns.popen
              simp [popen] at also
          | ok process =>
              have spawns : Spawns config surroundings process :=
                ⟨unanswered, here, windows, ⟨serverExe, found⟩, present, popen⟩
              cases settling : surroundings.settling with
              | ok value =>
                  have ended : startServer config surroundings state =
                      .ok () { state.note (.spawned process (serverArguments config serverExe)) with
                        serverProcess := some process } := by
                    simp only [startServer, found, present, popen, settling]
                    rfl
                  rw [bind_of_ok ended]
                  exact .spawned spawns ⟨_, rfl⟩ settling
              | error raised =>
                  obtain ⟨after, ended⟩ : ∃ raised, startServer config surroundings state =
                      .error raised
                        { state.note (.spawned process (serverArguments config serverExe)) with
                          serverProcess := some process } := by
                    simp only [startServer, found, present, popen, settling]
                    cases raised <;> exact ⟨_, rfl⟩
                  rw [bind_of_error ended]
                  exact .unsettled spawns ⟨_, rfl⟩ (by simp [settling])

variable (python config surroundings state) in
theorem ensureServer_ensured :
    Ensured config surroundings state (ensureServer python config surroundings state) := by
  obtain ⟨alive, healthy, data, probed⟩ : ∃ alive healthy data,
      probeServer surroundings.probe = (alive, healthy, data) := ⟨_, _, _, rfl⟩
  simp only [ensureServer, probed]
  by_cases unanswered : alive = false ∧ isLocal config = true
  · obtain ⟨rfl, here⟩ := unanswered
    rw [if_pos (by simp [here])]
    cases windows : surroundings.windows with
    | true => exact startServer_ensured (by rw [probed]) here windows
    | false =>
        refine .failed fun process spawns => ?_
        have also := spawns.windows
        simp [windows] at also
  · have unspawned : ∀ process, ¬ Spawns config surroundings process := fun process spawns =>
      unanswered ⟨by simpa [probed] using spawns.unanswered, spawns.here⟩
    rw [if_neg (by simpa using unanswered)]
    cases alive with
    | false => exact .failed unspawned
    | true =>
        cases healthy with
        | false => exact .failed unspawned
        | true => exact .found unspawned

/-- How `ProcessManager.start` ends. -/
inductive Started (config : JVServerConfig) (surroundings : Surroundings)
    (before : RuntimeState) : EStateM.Result (Raised Failure) RuntimeState Unit → Prop
  | unspawned {result} (unspawned : ∀ process, ¬ Spawns config surroundings process)
      (log : (finalState result).log = before.log) : Started config surroundings before result
  | unsettled {process after raised} (spawns : Spawns config surroundings process)
      (spawned : Spawned before after process) (unsettled : surroundings.settling ≠ .ok ()) :
      Started config surroundings before (.error raised after)
  | answered {process after} (spawns : Spawns config surroundings process)
      (spawned : Spawned before after process) (settled : surroundings.settling = .ok ())
      (answered : Answered surroundings.attempts) :
      Started config surroundings before (.ok () after)
  | interrupted {process after} (spawns : Spawns config surroundings process)
      (spawned : Spawned before after process) (settled : surroundings.settling = .ok ())
      (unanswered : ¬ Answered surroundings.attempts)
      (interrupted : Interrupted surroundings.attempts) :
      Started config surroundings before (.error .cancelled after)
  | stopped {process after raised} (spawns : Spawns config surroundings process)
      (spawned : Spawned before after process) (settled : surroundings.settling = .ok ())
      (unanswered : ¬ Answered surroundings.attempts)
      (uninterrupted : ¬ Interrupted surroundings.attempts) :
      Started config surroundings before
        (.error raised (finalState (stopServer config surroundings after)))

variable (python config surroundings state) in
theorem start_started :
    Started config surroundings state (ProcessManager.start python config surroundings state) := by
  unfold ProcessManager.start
  have ensured := ensureServer_ensured python config surroundings state
  obtain ⟨answered, interrupted⟩ := waitForServer_iff config surroundings.attempts
  generalize result : ensureServer python config surroundings state = ended at ensured
  cases ensured with
  | failed unspawned =>
      rw [bind_of_error result]
      exact .unspawned unspawned rfl
  | unsettled spawns spawned unsettled =>
      rw [bind_of_error result]
      exact .unsettled spawns spawned unsettled
  | found unspawned =>
      rw [bind_of_ok result]
      refine .unspawned unspawned ?_
      cases waited : waitForServer config surroundings.attempts with
      | ok value => rfl
      | error raised =>
          cases raised with
          | cancelled => rfl
          | error exception => rfl
  | @spawned process after spawns spawned settled =>
      rw [bind_of_ok result]
      cases waited : waitForServer config surroundings.attempts with
      | ok value => exact .answered spawns spawned settled (answered.mp waited)
      | error raised =>
          have unanswered : ¬ Answered surroundings.attempts := by simp [← answered, waited]
          cases raised with
          | cancelled =>
              rw [catchingAll_comesTo_cancelled]
              exact .interrupted spawns spawned settled unanswered (interrupted.mp waited)
          | error exception =>
              have uninterrupted : ¬ Interrupted surroundings.attempts := by
                simp [← interrupted, waited]
              have discards : discardServer config surroundings true after =
                  stopServer config surroundings after := by
                have held : after.serverProcess.isSome = true := by
                  obtain ⟨arguments, rfl⟩ := spawned
                  rfl
                exact read_bind.trans (by simp only [held, and_self, if_true])
              rw [catchingAll_comesTo_error]
              obtain ⟨raised, ended⟩ := bind_fail (discardServer config surroundings true)
                exception after
              rw [ended, discards]
              exact .stopped spawns spawned settled unanswered uninterrupted

/-! ## When nothing is orphaned -/

/-- The states before which a call has logged nothing. -/
def RuntimeState.beginning (state : RuntimeState) : RuntimeState := { state with log := [] }

theorem Spawned.mem {before after : RuntimeState} (spawned : Spawned before after process) :
    ∃ arguments, .spawned process arguments ∈ after.log := by
  obtain ⟨arguments, rfl⟩ := spawned
  exact ⟨arguments, by simp [RuntimeState.note]⟩

/-- Nothing has been done about a process that was just spawned. -/
theorem Spawned.unreleased {after : RuntimeState}
    (spawned : Spawned state.beginning after process) : ¬ Released after.log process := by
  obtain ⟨arguments, rfl⟩ := spawned
  simp [Released, RuntimeState.note, RuntimeState.beginning]

theorem noOrphan_of_spawned {after : RuntimeState} {raised : Raised Failure}
    (spawned : Spawned state.beginning after process) : ¬ NoOrphan (.error raised after) := by
  intro holds
  obtain ⟨arguments, member⟩ := spawned.mem
  exact spawned.unreleased (holds _ _ member)

theorem Spawned.held {before after : RuntimeState} (spawned : Spawned before after process) :
    after.serverProcess = some process := by
  obtain ⟨arguments, rfl⟩ := spawned
  rfl

theorem noOrphan_stopped {after : RuntimeState} {raised : Raised Failure}
    (spawned : Spawned state.beginning after process) :
    NoOrphan (.error raised (finalState (stopServer config surroundings after))) ↔
      surroundings.stopping.Completes := by
  obtain ⟨events, ⟨unspawned, ⟨url, requested⟩, ended⟩, logged⟩ :=
    stopServer_events config surroundings spawned.held
  obtain ⟨arguments, same⟩ := spawned
  have log : (finalState (stopServer config surroundings after)).log =
      .spawned process arguments :: events := by
    rw [logged, same]
    rfl
  rw [← ended]
  simp only [NoOrphan, log]
  constructor
  · intro holds
    simpa using (holds process arguments (by simp)).2
  · intro gone other otherArguments member
    rcases List.mem_cons.mp member with same | member
    · cases same
      exact ⟨⟨url, by simp [requested]⟩, by simpa using gone⟩
    · exact absurd member (unspawned _ _)

/-- The transport is open when `Client.start` has it started. -/
def HandedOver (surroundings : Surroundings) (state : RuntimeState) : Prop :=
  state.transportOpen = true ∨ surroundings.clientCreated = .ok ()

variable (surroundings state) in
theorem transportStart_cases :
    (HandedOver surroundings state ∧
        ∃ after, HttpTransport.start surroundings state = .ok () after) ∨
      ¬ HandedOver surroundings state ∧
        ∃ exception, HttpTransport.start surroundings state = .error (.error exception) state := by
  unfold HttpTransport.start HandedOver
  rw [read_bind]
  cases opened : state.transportOpen with
  | true => exact .inl ⟨.inl rfl, _, rfl⟩
  | false =>
      cases surroundings.clientCreated with
      | ok value => exact .inl ⟨.inr rfl, _, rfl⟩
      | error exception => exact .inr ⟨by simp, exception, rfl⟩

theorem stop_of_held (held : state.serverProcess = some process) :
    ProcessManager.stop config surroundings state = stopServer config surroundings state :=
  read_bind.trans (by simp only [held])

theorem stop_unspawned (none : Unspawned state.log) :
    Unspawned (finalState (ProcessManager.stop config surroundings state)).log := by
  cases held : state.serverProcess with
  | none =>
      have idle : ProcessManager.stop config surroundings state = .ok () state :=
        read_bind.trans (by simp only [held]; rfl)
      rw [idle]
      exact none
  | some process =>
      obtain ⟨events, ⟨unspawned, _, _⟩, logged⟩ := stopServer_events config surroundings held
      rw [stop_of_held held, logged]
      intro other arguments member
      rcases List.mem_append.mp member with member | member
      · exact none _ _ member
      · exact unspawned _ _ member

variable (config surroundings state) in
/-- What the facade does after the process manager has started. -/
theorem transport_guarded :
    (HandedOver surroundings state ∧ ∃ after,
        catchingAll (HttpTransport.start surroundings) (fun exception => do
          ProcessManager.stop config surroundings
          fail exception) state = .ok () after) ∨
      ¬ HandedOver surroundings state ∧ ∃ raised,
        catchingAll (HttpTransport.start surroundings) (fun exception => do
          ProcessManager.stop config surroundings
          fail exception) state =
            .error raised (finalState (ProcessManager.stop config surroundings state)) := by
  rcases transportStart_cases surroundings state with
    ⟨handedOver, after, started⟩ | ⟨failed, exception, started⟩
  · exact .inl ⟨handedOver, after, catching_of_ok started⟩
  · obtain ⟨raised, ended⟩ := bind_fail (ProcessManager.stop config surroundings) exception state
    exact .inr ⟨failed, raised, (catchingAll_of_error started).trans ended⟩

/-- The server is handed over or its clean-up is reached and completes. -/
def Covered (surroundings : Surroundings) (handedOver : Prop) : Prop :=
  surroundings.settling = .ok () ∧
    (Answered surroundings.attempts ∧ handedOver ∨
      ¬ Interrupted surroundings.attempts ∧ surroundings.stopping.Completes)

theorem Answered.uninterrupted {attempts : List Attempt} (answered : Answered attempts) :
    ¬ Interrupted attempts := by
  obtain ⟨ok, cancelled⟩ := waitForServer_iff
    { host := [], port := 0, sid := [] } attempts
  rw [← cancelled, ok.mpr answered]
  simp

/-- A start of the process manager that raises. -/
theorem failed_no_orphan_iff {after : RuntimeState} {raised : Raised Failure} (handedOver : Prop)
    (started : Started config surroundings state.beginning (.error raised after)) :
    NoOrphan (.error raised after) ↔
      ∀ process, Spawns config surroundings process → Covered surroundings handedOver := by
  generalize same : (EStateM.Result.error raised after :
    EStateM.Result (Raised Failure) RuntimeState Unit) = result at started
  cases started with
  | unspawned unspawned log =>
      have none : Unspawned (finalState result).log := by
        rw [log]
        simp [Unspawned, RuntimeState.beginning]
      exact iff_of_true (.of_unspawned none) fun process spawns => absurd spawns (unspawned process)
  | unsettled spawns spawned unsettled =>
      cases same
      exact iff_of_false (noOrphan_of_spawned spawned) fun covered =>
        unsettled (covered _ spawns).1
  | answered spawns spawned settled answered => cases same
  | interrupted spawns spawned settled unanswered interrupted =>
      cases same
      refine iff_of_false (noOrphan_of_spawned spawned) fun covered => ?_
      rcases (covered _ spawns).2 with ⟨answered, _⟩ | ⟨uninterrupted, _⟩
      · exact unanswered answered
      · exact uninterrupted interrupted
  | stopped spawns spawned settled unanswered uninterrupted =>
      rw [noOrphan_stopped spawned]
      constructor
      · exact fun completes _ _ => ⟨settled, .inr ⟨uninterrupted, completes⟩⟩
      · intro covered
        rcases (covered _ spawns).2 with ⟨answered, _⟩ | ⟨_, completes⟩
        · exact absurd answered unanswered
        · exact completes

variable (python config surroundings state) in
theorem manager_no_orphan_iff :
    NoOrphan (ProcessManager.start python config surroundings state.beginning) ↔
      ∀ process, Spawns config surroundings process → Covered surroundings True := by
  have started := start_started python config surroundings state.beginning
  cases ended : ProcessManager.start python config surroundings state.beginning with
  | error raised after => exact failed_no_orphan_iff True (ended ▸ started)
  | ok value after =>
      refine iff_of_true trivial fun process spawns => ?_
      rw [ended] at started
      cases started with
      | unspawned unspawned log => exact absurd spawns (unspawned process)
      | answered _ spawned settled answered => exact ⟨settled, .inl ⟨answered, trivial⟩⟩

variable (python config surroundings state) in
theorem client_no_orphan_iff :
    NoOrphan (start python config surroundings state.beginning) ↔
      ∀ process, Spawns config surroundings process →
        Covered surroundings (HandedOver surroundings state) := by
  have started := start_started python config surroundings state.beginning
  unfold start
  cases ended : ProcessManager.start python config surroundings state.beginning with
  | error raised after =>
      rw [bind_of_error ended]
      exact failed_no_orphan_iff _ (ended ▸ started)
  | ok value after =>
      rw [bind_of_ok ended]
      rw [ended] at started
      cases started with
      | unspawned unspawned log =>
          refine iff_of_true ?_ fun process spawns => absurd spawns (unspawned process)
          rcases transport_guarded config surroundings after with ⟨_, opened, same⟩ | ⟨_, raised, same⟩
          · rw [same]
            trivial
          · rw [same]
            refine .of_unspawned (stop_unspawned ?_)
            have log : after.log = [] := log
            simp [Unspawned, log]
      | @answered process _ spawns spawned settled answered =>
          have open_iff : HandedOver surroundings after ↔ HandedOver surroundings state := by
            obtain ⟨arguments, rfl⟩ := spawned
            exact Iff.rfl
          rcases transport_guarded config surroundings after with
            ⟨handedOver, opened, same⟩ | ⟨failed, raised, same⟩
          · rw [same]
            exact iff_of_true trivial fun _ _ =>
              ⟨settled, .inl ⟨answered, open_iff.mp handedOver⟩⟩
          · rw [same, stop_of_held spawned.held, noOrphan_stopped spawned]
            constructor
            · exact fun completes _ _ => ⟨settled, .inr ⟨answered.uninterrupted, completes⟩⟩
            · intro covered
              rcases (covered _ spawns).2 with ⟨_, handedOver⟩ | ⟨_, completes⟩
              · exact absurd (open_iff.mpr handedOver) failed
              · exact completes

/-- No server is orphaned if and only if, in case one is spawned, the settling pause ends
normally, and either the server is found healthy and is handed over, or the wait is not
cancelled and the clean-up completes. -/
theorem start_no_orphan_iff (python : PythonStr) (config : JVServerConfig)
    (surroundings : Surroundings) (state : RuntimeState) :
    (NoOrphan (ProcessManager.start python config surroundings state.beginning) ↔
      ∀ process, Spawns config surroundings process → Covered surroundings True) ∧
    (NoOrphan (start python config surroundings state.beginning) ↔
      ∀ process, Spawns config surroundings process →
        Covered surroundings (HandedOver surroundings state)) :=
  ⟨manager_no_orphan_iff python config surroundings state,
    client_no_orphan_iff python config surroundings state⟩

def localConfig : JVServerConfig :=
  { host := utf8 "127.0.0.1", port := 8765, sid := utf8 "UNKNOWN" }

/-- The task is cancelled during the settling pause. -/
theorem cancelled_start_orphans :
    ∃ surroundings, surroundings.settling = .error .cancelled ∧
      ¬ NoOrphan (start plainText localConfig surroundings {}) ∧
      ¬ NoOrphan (ProcessManager.start plainText localConfig surroundings {}) := by
  let surroundings : Surroundings :=
    { probe := .error (.other []), isPackaged := true, popen := .ok 4242
      settling := .error .cancelled }
  have spawns : Spawns localConfig surroundings 4242 :=
    ⟨rfl, by decide +kernel, rfl, ⟨_, rfl⟩, rfl, rfl⟩
  refine ⟨surroundings, rfl, fun holds => ?_, fun holds => ?_⟩
  · have covered := (client_no_orphan_iff plainText localConfig surroundings {}).mp holds 4242 spawns
    cases covered.1
  · have covered := (manager_no_orphan_iff plainText localConfig surroundings {}).mp holds 4242 spawns
    cases covered.1

end JVLinkServer.Client
