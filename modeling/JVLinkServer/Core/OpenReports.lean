import JVLinkServer.Core.CallbackProtocol
import JVLinkServer.Core.Corruption

namespace JVLinkServer.Core

open Effects

/-! # How a failed JVOpen is reported

`performJVOpen` returns -1 when the call itself fails, and its caller takes -1 for the
answer that there is no data.
-/

namespace OpenReply

/-- JVOpen was not executed, or answered with an error. -/
def Fails (reply : OpenReply) : Prop :=
  reply.result = .failed ∨ reply.result.lVal (-1) < 0 ∧ reply.result.lVal (-1) ≠ jvErrorNoData

instance (reply : OpenReply) : Decidable reply.Fails :=
  inferInstanceAs (Decidable (_ ∨ _))

end OpenReply

section Reports

variable {κ ρ : Type}

/-- The callbacks start with the report of a failure. -/
def ReportsFailure (callbacks : List CallbackCall) : Prop :=
  ∃ result, callbacks.head? = some (.metaCallback result) ∧ result.success = false ∧
    result.errorCode ≠ 0

/-- `final` is where the query ends. -/
structure OpenReported (jv : JVLink κ) (query : StoredQuery) (world final : RecordedWorld κ ρ) :
    Prop where
  failure : world.wrapper.isInitialized = true → ∀ reply opened,
    openCall jv.recorded query world = .ok reply opened → reply.Fails →
    ReportsFailure final.callbacks
  success : ∀ result, .metaCallback result ∈ final.callbacks → result.success = true →
    ∃ reply opened, openCall jv.recorded query world = .ok reply opened ∧ ¬ reply.Fails

/-- The cancel predicate answers no. -/
def GoesOn (client : StreamClient ρ) (world after : World κ ρ) : Prop :=
  shouldCancel client world = .ok false after

/-- Downloads were announced all the same, and `JVStatus` reports them failed. -/
def DownloadsFail (jv : JVLink κ) (client : StreamClient ρ) (downloadCount : Int)
    (opened : World κ ρ) : Prop :=
  ∃ polled statusCode waited after, GoesOn client opened polled ∧ 0 < downloadCount ∧
    waitForDownload jv client downloadCount polled = .ok (false, statusCode) waited ∧
    GoesOn client waited after

/-- The call of JVOpen does not fail, and after an answer with an error nobody cancels. -/
def OpenForeseen (jv : JVLink κ) (client : StreamClient ρ) (query : StoredQuery)
    (world : World κ ρ) : Prop :=
  world.wrapper.isInitialized = true → ∀ reply opened,
    openCall jv query world = .ok reply opened → reply.Fails →
    if reply.result = .failed then DownloadsFail jv client reply.downloadCount opened
    else ∃ polled, GoesOn client opened polled

variable {jv : JVLink κ} {client : StreamClient ρ} {query : StoredQuery} {fuel : Nat}
  {reply : OpenReply}

theorem not_reportsFailure_of_underway {world : RecordedWorld κ ρ} (underway : world.Underway) :
    ¬ ReportsFailure world.callbacks := by
  rintro ⟨result, first, failed, -⟩
  rcases underway with ⟨-, silent⟩ | ⟨-, described, records, succeeded, told⟩
  · rw [silent] at first
    cases first
  · rw [told] at first
    cases first
    simp [succeeded] at failed

theorem reportsFailure_of_failedWith {world : RecordedWorld κ ρ} {result : JVQueryResult}
    (failed : world.FailedWith result) : ReportsFailure world.callbacks := by
  obtain ⟨-, unsuccessful, negative, told⟩ := failed
  refine ⟨result, ?_, unsuccessful, by omega⟩
  rw [told]
  rfl

theorem throwIfCanceled_goesOn {message : String} {world polled : World κ ρ}
    (goesOn : GoesOn client world polled) :
    throwIfCanceled client message world = .ok () polled := by
  unfold throwIfCanceled
  rw [bind_of_ok goesOn]
  rfl

/-- A poll that does not answer no ends the query where it is. -/
theorem throwIfCanceled_stops (message : String) {world : RecordedWorld κ ρ}
    (opening : world.Opening) (stops : ∀ polled, ¬ GoesOn client.recorded world polled) :
    ∃ exception after, throwIfCanceled client.recorded message world = .error exception after ∧
      after.Opening := by
  have polled := shouldCancel_recorded client world opening
  unfold throwIfCanceled
  cases answered : shouldCancel client.recorded world with
  | error exception after =>
      rw [answered] at polled
      exact ⟨exception, after, bind_of_error answered, polled⟩
  | ok answer after =>
      rw [answered] at polled
      cases answer with
      | true => exact ⟨_, after, bind_of_ok answered, polled⟩
      | false => exact (stops after answered).elim

variable {opened : RecordedWorld κ ρ}

theorem underway_of_ends {α : Type} {post : α → RecordedWorld κ ρ → Prop}
    {body : EStateM.Result Exception (RecordedWorld κ ρ) α}
    (ended : Ends post (fun _ => World.Underway) body)
    (returned : ∀ value world, post value world → world.Underway) : (finalState body).Underway := by
  cases body with
  | ok value after => exact returned value after ended
  | error exception after => exact ended

theorem streamRecords_underway (reply : OpenReply) (opening : opened.Opening) :
    (finalState (streamRecords jv.recorded client.recorded query fuel reply opened)).Underway :=
  underway_of_ends ((stream_protocol jv client query).streamRecords fuel reply opened opening)
    fun _ _ streamed => .inr streamed.2

theorem opening_of_goesOn {polled : RecordedWorld κ ρ} (opening : opened.Opening)
    (goesOn : GoesOn client.recorded opened polled) : polled.Opening := by
  have kept := shouldCancel_recorded client opened opening
  rw [goesOn] at kept
  exact kept

theorem refusal_reports {result : JVQueryResult} (failed : result.success = false)
    (negative : result.errorCode < 0) (reason : StreamEnd) (opening : opened.Opening) :
    ReportsFailure (finalState ((do metaCallback client.recorded result; return reason) opened :
      EStateM.Result Exception (RecordedWorld κ ρ) StreamEnd)).callbacks := by
  have refused := metaCallback_refused client result failed negative opened opening
  cases ended : metaCallback client.recorded result opened with
  | ok _ after =>
      rw [ended] at refused
      simp only [bind, EStateM.bind, ended]
      exact reportsFailure_of_failedWith refused
  | error exception after =>
      rw [ended] at refused
      simp only [bind, EStateM.bind, ended]
      exact reportsFailure_of_failedWith refused.2

/-- An answer with an error is reported as soon as nobody has cancelled. -/
theorem streamOpened_answered (opening : opened.Opening) (executed : reply.result ≠ .failed)
    (fails : reply.Fails) :
    ReportsFailure
        (finalState (streamOpened jv.recorded client.recorded query fuel reply opened)).callbacks ↔
      ∃ polled, GoesOn client.recorded opened polled := by
  have error : (decide (reply.result.lVal (-1) < 0) &&
      decide (reply.result.lVal (-1) ≠ jvErrorNoData)) = true := by
    simpa using fails.resolve_left executed
  constructor
  · intro reports
    by_contra stops
    obtain ⟨exception, after, stopped, kept⟩ := throwIfCanceled_stops
      "Stored stream canceled after JVOpen" opening fun polled goesOn => stops ⟨polled, goesOn⟩
    unfold streamOpened at reports
    rw [bind_of_error stopped] at reports
    exact not_reportsFailure_of_underway (.inl kept) reports
  · rintro ⟨polled, goesOn⟩
    unfold streamOpened
    rw [bind_of_ok (throwIfCanceled_goesOn goesOn)]
    simp only [error, if_true]
    exact refusal_reports rfl (fails.resolve_left executed).1 _ (opening_of_goesOn opening goesOn)

/-- A failed call goes on like an answer that there is no data. -/
theorem streamOpened_failed (opening : opened.Opening) (failed : reply.result = .failed) :
    ReportsFailure
        (finalState (streamOpened jv.recorded client.recorded query fuel reply opened)).callbacks ↔
      DownloadsFail jv.recorded client.recorded reply.downloadCount opened := by
  have accepted : (decide (reply.result.lVal (-1) < 0) &&
      decide (reply.result.lVal (-1) ≠ jvErrorNoData)) = false := by
    rw [failed]
    decide
  constructor
  · intro reports
    by_contra none
    refine not_reportsFailure_of_underway ?_ reports
    by_cases goes : ∃ polled, GoesOn client.recorded opened polled
    · obtain ⟨polled, goesOn⟩ := goes
      have opening := opening_of_goesOn opening goesOn
      unfold streamOpened
      rw [bind_of_ok (throwIfCanceled_goesOn goesOn)]
      simp only [accepted, Bool.false_eq_true, if_false]
      split
      next announced =>
        have kept : Ends (fun _ => World.Opening) (fun _ => World.Underway)
            (waitForDownload jv.recorded client.recorded reply.downloadCount polled) :=
          (stream_protocol jv client query).waitForDownloadRounds _ _ polled opening
        cases waits : waitForDownload jv.recorded client.recorded reply.downloadCount polled with
        | error exception waited =>
            rw [waits] at kept
            rw [bind_of_error waits]
            exact kept
        | ok answer waited =>
            obtain ⟨downloadResult, statusCode⟩ := answer
            rw [waits] at kept
            rw [bind_of_ok waits]
            by_cases again : ∃ after, GoesOn client.recorded waited after
            · obtain ⟨after, goesOnAgain⟩ := again
              rw [bind_of_ok (throwIfCanceled_goesOn goesOnAgain)]
              cases downloadResult with
              | true => exact streamRecords_underway reply (opening_of_goesOn kept goesOnAgain)
              | false =>
                  exact (none ⟨polled, statusCode, waited, after, goesOn, announced, waits,
                    goesOnAgain⟩).elim
            · obtain ⟨exception, after, stopped, still⟩ := throwIfCanceled_stops
                "Stored stream canceled during download wait" kept
                fun after goesOnAgain => again ⟨after, goesOnAgain⟩
              rw [bind_of_error stopped]
              exact .inl still
      next => exact streamRecords_underway reply opening
    · obtain ⟨exception, after, stopped, kept⟩ := throwIfCanceled_stops
        "Stored stream canceled after JVOpen" opening fun polled goesOn => goes ⟨polled, goesOn⟩
      unfold streamOpened
      rw [bind_of_error stopped]
      exact .inl kept
  · rintro ⟨polled, statusCode, waited, after, goesOn, announced, waits, goesOnAgain⟩
    have opening := opening_of_goesOn opening goesOn
    unfold streamOpened
    rw [bind_of_ok (throwIfCanceled_goesOn goesOn)]
    simp only [accepted, announced, Bool.false_eq_true, if_false, if_true]
    have kept : Ends (fun _ => World.Opening) (fun _ => World.Underway)
        (waitForDownload jv.recorded client.recorded reply.downloadCount polled) :=
      (stream_protocol jv client query).waitForDownloadRounds _ _ polled opening
    rw [waits] at kept
    rw [bind_of_ok waits, bind_of_ok (throwIfCanceled_goesOn goesOnAgain)]
    refine refusal_reports rfl ?_ _ (opening_of_goesOn kept goesOnAgain)
    change (if statusCode < 0 then statusCode else jvErrorDownloadFailed) < 0
    split
    · assumption
    · decide

theorem openReported_congr {world final final' : RecordedWorld κ ρ}
    (same : final.callbacks = final'.callbacks) :
    OpenReported jv query world final ↔ OpenReported jv query world final' := by
  constructor
  · rintro ⟨failure, success⟩
    exact ⟨fun initialized reply opened call fails => same ▸ failure initialized reply opened call fails,
      fun result member => success result (same ▸ member)⟩
  · rintro ⟨failure, success⟩
    exact ⟨fun initialized reply opened call fails => same ▸ failure initialized reply opened call fails,
      fun result member => success result (same ▸ member)⟩

/-- No successful meta comes beside the report of a failure. -/
theorem no_success_of_reports {final : RecordedWorld κ ρ}
    (ended : final.Underway ∨ ∃ result, final.FailedWith result)
    (reports : ReportsFailure final.callbacks) {result : JVQueryResult}
    (told : .metaCallback result ∈ final.callbacks) : result.success = false := by
  rcases ended with underway | ⟨refused, -, failed, -, alone⟩
  · exact (not_reportsFailure_of_underway underway reports).elim
  · rw [alone] at told
    cases List.mem_singleton.mp told
    exact failed

/-- What a query on a wrapper that is not initialised reports. -/
def uninitializedResult : JVQueryResult := { errorMessage := "JVLinkWrapper not initialized" }

theorem openReported_uninitialized {world : World κ ρ}
    (uninitialized : world.wrapper.isInitialized = false) :
    OpenReported jv query world.recorded
      (finalState (queryStored jv.recorded client.recorded query fuel world.recorded)) := by
  have described : Ensures (OnRecord (κ := κ) fun _ callbacks => callbacks = [])
      (metaCallback client.recorded uninitializedResult)
      (fun _ => OnRecord fun _ callbacks => callbacks = [.metaCallback uninitializedResult])
      (fun _ => OnRecord fun _ callbacks => callbacks = [.metaCallback uninitializedResult]) :=
    (metaCallback_recorded uninitializedResult fun _ callbacks silent => by
      rw [silent]; rfl).raise fun _ _ raised => raised.2
  have refused : queryStored jv.recorded client.recorded query fuel world.recorded =
      (do
        metaCallback client.recorded uninitializedResult
        return .notInitialized : Action _ _ StreamEnd) world.recorded := by
    simp [queryStored, bind, EStateM.bind, Effects.read, World.recorded, uninitialized,
      uninitializedResult]
  have told : Keeps (OnRecord (κ := κ) (ρ := ρ) fun _ callbacks =>
      callbacks = [.metaCallback uninitializedResult])
      (return .notInitialized : Action _ _ StreamEnd) := Keeps.pure _
  have ran := Ensures.bind described (fun _ => told) world.recorded rfl
  rw [← refused] at ran
  have callbacks := ran.finalState
  refine ⟨fun initialized => ?_, fun result member succeeded => ?_⟩
  · rw [World.recorded, uninitialized] at initialized
    cases initialized
  · rw [callbacks] at member
    cases List.mem_singleton.mp member
    cases succeeded

/-- A failed JVOpen is reported if and only if the call of it does not fail, and after
an answer with an error the query is not cancelled. -/
theorem failed_open_reported_iff (world : World κ ρ) (fuel : Nat) :
    OpenReported jv query world.recorded
        (finalState (queryStored jv.recorded client.recorded query fuel world.recorded)) ↔
      OpenForeseen jv.recorded client.recorded query world.recorded := by
  cases initialized : world.wrapper.isInitialized with
  | false =>
      refine iff_of_true (openReported_uninitialized initialized) fun started => ?_
      simp [World.recorded, initialized] at started
  | true =>
      have ended := openAndStream_final jv client query fuel (opening_recorded world)
      rw [openReported_congr (queryStored_callbacks world.recorded initialized fuel)]
      rw [openAndStream_eq] at ended ⊢
      have opening := openCall_protocol jv query world.recorded
        (opening_recorded world)
      cases call : openCall jv.recorded query world.recorded with
      | error exception after =>
          rw [call] at opening
          rw [bind_of_error call]
          refine iff_of_true ⟨fun _ reply opened returned => ?_, fun result member => ?_⟩
            fun _ reply opened returned => ?_
          · simp [call] at returned
          · have silent : after.callbacks = [] := opening.2
            simp [finalState, silent] at member
          · simp [call] at returned
      | ok reply opened =>
          rw [call] at opening
          rw [bind_of_ok call] at ended ⊢
          by_cases fails : reply.Fails
          · have reported : OpenReported jv query world.recorded
                (finalState (streamOpened jv.recorded client.recorded query fuel reply opened)) ↔
                ReportsFailure (finalState
                  (streamOpened jv.recorded client.recorded query fuel reply opened)).callbacks := by
              constructor
              · exact fun reported => reported.failure initialized reply opened call fails
              · intro reports
                refine ⟨fun _ _ _ _ _ => reports, fun result told succeeded => ?_⟩
                simp [no_success_of_reports ended reports told] at succeeded
            have foreseen : OpenForeseen jv.recorded client.recorded query world.recorded ↔
                if reply.result = .failed then
                  DownloadsFail jv.recorded client.recorded reply.downloadCount opened
                else ∃ polled, GoesOn client.recorded opened polled := by
              constructor
              · exact fun foreseen => foreseen initialized reply opened call fails
              · intro holds _ reply' opened' call' _
                rw [call] at call'
                cases call'
                exact holds
            rw [reported, foreseen]
            split
            · exact streamOpened_failed opening ‹_›
            · exact streamOpened_answered opening ‹_› fails
          · refine iff_of_true ⟨fun _ reply' opened' returned failed => ?_, fun result told _ => ?_⟩
              fun _ reply' opened' returned failed => ?_
            · rw [call] at returned
              cases returned
              exact (fails failed).elim
            · exact ⟨reply, opened, call, fails⟩
            · rw [call] at returned
              cases returned
              exact (fails failed).elim

end Reports

/-! ## A call that fails -/

/-- The call of JVOpen fails, everything else succeeds. -/
def refusingJVLink : JVLink (List GetsReply) :=
  { scriptedJVLink with jvOpen := fun _ _ _ script => ({ result := .failed }, script) }

/-- The client is told that there are no files. -/
theorem failed_call_not_reported :
    ¬ ∀ (world : World (List GetsReply) Unit) (fuel : Nat),
      OpenReported refusingJVLink raceQuery world.recorded
        (finalState (queryStored refusingJVLink.recorded patientClient.recorded raceQuery fuel
          world.recorded)) := by
  intro reported
  obtain ⟨result, first, failed, -⟩ := (reported (initializedWorld []) 1).failure rfl
    { result := .failed } _ rfl (.inl rfl)
  have succeeded : ((finalState (queryStored refusingJVLink.recorded patientClient.recorded
      raceQuery 1 (initializedWorld []).recorded)).callbacks.head?) =
        some (.metaCallback { success := true }) := by decide +kernel
  rw [succeeded] at first
  cases first
  cases failed

end JVLinkServer.Core
