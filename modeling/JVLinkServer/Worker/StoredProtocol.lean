import JVLinkServer.Core.CallbackProtocol
import JVLinkServer.Core.Corruption
import JVLinkServer.Worker.ResponseLines

namespace JVLinkServer.Worker

open Effects JVLinkServer.Core Lines

/-! # The callback protocol of a stored query

What the client is told, how the session is closed, and what both make of the response.
-/

section Closing

variable {κ ρ α : Type} {jv : JVLink κ}

/-- The COM thread gets to run a task. -/
def TaskRuns (jv : JVLink κ) (taskName : String) (timeout : Nat) (world : World κ ρ) : Prop :=
  world.worker.running = true → world.worker.accepts = true ∧
    (timeout ≠ 0 → (jv.taskFate taskName world.env).1 ≠ .timesOut false)

/-- The one attempt of the guard gets as far as JVClose. -/
def Closable (jv : JVLink κ) (world : World κ ρ) : Prop :=
  world.wrapper.dispatch = true ∧
    TaskRuns jv "jv_close" world.wrapper.timeoutConfig.controlTimeout world

section Tasks

variable {world : RecordedWorld κ ρ} {taskName : String} {timeout : Nat}
  {callable : Action (κ × List StreamCall) (ρ × List CallbackCall) α} {calls : List StreamCall}

/-- The calls of a task that runs, in time or too late. -/
theorem runOnComThread_runs (runs : TaskRuns jv.recorded taskName timeout world)
    (called : ∀ env, env.2 = world.env.2 →
      (finalState (callable { world with env })).calls = calls) :
    (finalState (runOnComThread jv.recorded taskName timeout callable world)).calls = calls := by
  cases running : world.worker.running with
  | false => simpa [runOnComThread, bind, EStateM.bind, Effects.read, running] using called world.env rfl
  | true =>
      obtain ⟨accepts, intime⟩ := runs running
      simp only [ComThreadWorker.accepts, Bool.and_eq_true, Bool.not_eq_true'] at accepts
      obtain ⟨⟨-, accepting⟩, sound⟩ := accepts
      by_cases untimed : timeout = 0
      · simpa [runOnComThread, invokeTask, bind, EStateM.bind, Effects.read, running, sound,
          accepting, ComThreadWorker.accepts, untimed] using called world.env rfl
      · cases fate : (jv.taskFate taskName world.env.1).1 with
        | completes =>
            simpa [runOnComThread, invokeTask, bind, EStateM.bind, Effects.read, running, sound,
              accepting, ComThreadWorker.accepts, untimed, ask, fate, JVLink.recorded,
              unrecorded] using called (jv.recorded.taskFate taskName world.env).2 rfl
        | timesOut ran =>
            cases ran with
            | false => exact (intime untimed fate).elim
            | true =>
                simpa [runOnComThread, invokeTask, bind, EStateM.bind, Effects.read, running, sound,
                  accepting, ComThreadWorker.accepts, untimed, ask, fate, attempt, giveUpTask,
                  setWorker, recordTimeout, update, EStateM.throw, finalState, JVLink.recorded,
                  unrecorded, World.calls] using called (jv.recorded.taskFate taskName world.env).2 rfl

theorem runOnComThread_refused (refused : ¬ TaskRuns jv.recorded taskName timeout world) :
    (finalState (runOnComThread jv.recorded taskName timeout callable world)).calls =
      world.calls := by
  simp only [TaskRuns, not_forall] at refused
  obtain ⟨running, refused⟩ := refused
  cases sound : world.worker.faulted with
  | true => simp [runOnComThread, invokeTask, bind, EStateM.bind, Effects.read, running, sound,
      EStateM.throw, finalState]
  | false =>
      cases accepting : world.worker.acceptingTasks with
      | false => simp [runOnComThread, invokeTask, bind, EStateM.bind, Effects.read, running, sound,
          EStateM.throw, finalState, ComThreadWorker.accepts, accepting]
      | true =>
          have late : timeout ≠ 0 ∧
              (jv.taskFate taskName world.env.1).1 = .timesOut false := by
            simpa [ComThreadWorker.accepts, running, sound, accepting, JVLink.recorded,
              unrecorded] using refused
          simp [runOnComThread, invokeTask, bind, EStateM.bind, Effects.read, running, sound,
            accepting, ComThreadWorker.accepts, late, ask, giveUpTask, setWorker, recordTimeout,
            update, EStateM.throw, finalState, JVLink.recorded, unrecorded, World.calls]

end Tasks

theorem closeSession_run (world : RecordedWorld κ ρ) :
    (finalState (closeSession jv.recorded world)).calls =
      (finalState (runOnComThread jv.recorded "jv_close"
        world.wrapper.timeoutConfig.controlTimeout (performJVClose jv.recorded) world)).calls :=
  rfl

theorem performJVClose_calls (world : RecordedWorld κ ρ) :
    (finalState (performJVClose jv.recorded world)).calls =
      if world.wrapper.dispatch then world.calls ++ [.jvClose] else world.calls := by
  cases available : world.wrapper.dispatch <;>
    simp [performJVClose, bind, EStateM.bind, Effects.read, available, invokeMethod, ask, pure,
      EStateM.pure, finalState, JVLink.recorded, recordedAs, World.calls]

theorem closeSession_closes {world : RecordedWorld κ ρ} (closable : Closable jv.recorded world) :
    (finalState (closeSession jv.recorded world)).calls = world.calls ++ [.jvClose] := by
  rw [closeSession_run]
  refine runOnComThread_runs closable.2 fun env same => ?_
  rw [performJVClose_calls]
  simp [closable.1, World.calls, same]

theorem closeSession_stays {world : RecordedWorld κ ρ} (stuck : ¬ Closable jv.recorded world) :
    (finalState (closeSession jv.recorded world)).calls = world.calls := by
  rw [closeSession_run]
  by_cases runs : TaskRuns jv.recorded "jv_close" world.wrapper.timeoutConfig.controlTimeout world
  · refine runOnComThread_runs runs fun env same => ?_
    have missing : world.wrapper.dispatch = false := by
      by_contra available
      exact stuck ⟨by simpa using available, runs⟩
    rw [performJVClose_calls]
    simp [missing, World.calls, same]
  · exact runOnComThread_refused runs

/-- The session is closed from `left`, where all its calls are behind it. -/
structure ClosedFrom (jv : JVLink κ) (left final : RecordedWorld κ ρ) : Prop where
  still : StillOpen left.calls
  attempted : final = finalState (closeSession jv.recorded left)
  closes : Closable jv.recorded left → final.calls = left.calls ++ [.jvClose]
  stays : ¬ Closable jv.recorded left → final.calls = left.calls

theorem closedFrom {left : RecordedWorld κ ρ} (still : StillOpen left.calls) :
    ClosedFrom jv left (finalState (closeSession jv.recorded left)) where
  still := still
  attempted := rfl
  closes := closeSession_closes
  stays := closeSession_stays

end Closing

section Protocol

variable {κ ρ : Type}

/-- What a stored query tells its client and JV-Link, however it ends. -/
structure CallbackProtocol (jv : JVLink κ) (client : StreamClient ρ)
    (run : EStateM.Result Exception (RecordedWorld κ ρ) StreamEnd) : Prop where
  ordered : Unannounced (finalState run).callbacks ∨
    (∃ result, RefusedWith result (finalState run).callbacks) ∨
    Streamed (finalState run).callbacks
  raised : ∀ exception after result, run = .error exception after →
    RefusedWith result after.callbacks → Raises (client.metaCallback result) exception
  closed : (∀ after, run ≠ .error .stillRunning after) →
    ∃ left, ClosedFrom jv left (finalState run)

/-- The world of a query that serves a new stream. -/
def serving {ν : Type} (world : World κ ρ) (network : ν) : World κ (StoredStream ν) where
  wrapper := world.wrapper
  worker := world.worker
  env := world.env
  client := { network }
  observed := world.observed
  timedOut := world.timedOut
  files := world.files

variable {jv : JVLink κ} {client : StreamClient ρ} {query : StoredQuery}

theorem stillOpen_of_final {world : RecordedWorld κ ρ}
    (ended : world.Underway ∨ ∃ result, world.FailedWith result) : StillOpen world.calls := by
  rcases ended with (opening | streaming) | ⟨result, failed⟩
  · exact opening.1
  · exact streaming.1
  · exact failed.1

theorem ordered_of_final {world : RecordedWorld κ ρ}
    (ended : world.Underway ∨ ∃ result, world.FailedWith result) :
    Unannounced world.callbacks ∨ (∃ result, RefusedWith result world.callbacks) ∨
      Streamed world.callbacks := by
  rcases ended with (opening | streaming) | ⟨result, failed⟩
  · exact .inl opening.2
  · exact .inr (.inr streaming.2)
  · exact .inr (.inl ⟨result, failed.2⟩)

/-- The guard acts on every exit. -/
theorem withSessionGuard_final {α : Type} {body : Action κ ρ α} {world : World κ ρ}
    (exits : ∀ after, withSessionGuard jv body world ≠ .error .stillRunning after) :
    finalState (withSessionGuard jv body world) =
      finalState (closeSession jv (finalState (body world))) := by
  unfold withSessionGuard Effects.afterwards at exits ⊢
  cases run : body world with
  | ok value left => rfl
  | error exception left =>
      rw [run] at exits
      cases exception with
      | stillRunning => exact (exits left rfl).elim
      | _ => rfl

/-- The exception that leaves the guard is that of the query. -/
theorem withSessionGuard_error {α : Type} {body : Action κ ρ α} {world after : World κ ρ}
    {exception : Exception} (threw : withSessionGuard jv body world = .error exception after) :
    ∃ left, body world = .error exception left := by
  unfold withSessionGuard Effects.afterwards at threw
  cases run : body world with
  | ok value left => simp [run] at threw
  | error raised left =>
      rw [run] at threw
      simp only [EStateM.Result.error.injEq] at threw
      exact ⟨left, by rw [threw.1]⟩

theorem queryStored_protocol {world : World κ ρ} (initialized : world.wrapper.isInitialized = true)
    (fuel : Nat) :
    CallbackProtocol jv client
      (queryStored jv.recorded client.recorded query fuel world.recorded) := by
  have left := openAndStream_final jv client query fuel (opening_recorded world)
  have told : (finalState (queryStored jv.recorded client.recorded query fuel
      world.recorded)).callbacks = _ := queryStored_callbacks world.recorded initialized fuel
  refine ⟨?_, fun exception after result threw refused => ?_, fun exits => ?_⟩
  · rw [told]
    exact ordered_of_final left
  · rw [queryStored_guarded world.recorded initialized] at threw
    obtain ⟨before, ran⟩ := withSessionGuard_error threw
    have ended := openAndStream_protocol jv client query fuel world.recorded
      (opening_recorded world)
    rw [queryStored_guarded world.recorded initialized, threw, ran] at told
    rw [ran] at ended
    have same : after.callbacks = before.callbacks := told
    rcases ended with underway | ⟨result', failed, raises⟩
    · rw [same] at refused
      exact (not_refused_of_underway underway refused).elim
    · rw [same, failed.2.alone] at refused
      cases List.singleton_inj.mp refused.alone
      exact raises
  · rw [queryStored_guarded world.recorded initialized] at exits ⊢
    rw [withSessionGuard_final exits]
    exact ⟨_, closedFrom (stillOpen_of_final left)⟩

/-- Over every run: the order of the callbacks, one attempt to close the session after
its last call, and a response of metadata, records and at most one error. -/
theorem stored_query_protocol {ν : Type} (jv : JVLink κ) (client : StreamClient ρ)
    (connection : Connection ν) (parser : RecordParser) (query : StoredQuery) (fuel : Nat)
    (world : World κ ρ) (network : ν) (initialized : world.wrapper.isInitialized = true) :
    CallbackProtocol jv client
        (queryStored jv.recorded client.recorded query fuel world.recorded) ∧
      ResponseLines (solidLines newline (finalState
        (provideStored connection jv parser query fuel (serving world network))).client.out.flatten) := by
  refine ⟨queryStored_protocol initialized fuel, ?_⟩
  have responded := provideStored_responds connection jv query parser fuel
    (serving world network) ⟨rfl, rfl⟩
  obtain ⟨lines, response, shows⟩ := responded.finalState
  rw [← shows] at response
  exact response

end Protocol

/-- A connection that takes everything. -/
def openConnection : Connection Unit where
  isWritable network := (true, network)
  write _ network := (true, network)
  heartbeats network := ((0, .beating), network)
  resetRequested network := (false, network)

/-- Every record is its own type. -/
def plainRecords : RecordParser where
  parseRecord record := .ok (some (record, Json.record []))
  oneLine record type data parsed := by
    cases parsed
    exact Json.oneLine_record (by simp)

theorem stored_query_protocol_race :
    CallbackProtocol scriptedJVLink patientClient
        (queryStored scriptedJVLink.recorded patientClient.recorded raceQuery 5
          (initializedWorld [goodReply]).recorded) ∧
      ResponseLines (solidLines newline (finalState
        (provideStored openConnection scriptedJVLink plainRecords raceQuery 5
          (serving (initializedWorld [goodReply]) ()))).client.out.flatten) :=
  stored_query_protocol scriptedJVLink patientClient openConnection plainRecords raceQuery 5
    (initializedWorld [goodReply]) () rfl

end JVLinkServer.Worker
