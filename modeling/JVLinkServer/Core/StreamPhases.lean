import JVLinkServer.Core.StreamRules

namespace JVLinkServer.Core

open Effects

/-! # The two phases of a stored query

Until its meta callback a query is opening, from then on it is reading.
-/

section StreamPhases

variable {κ ρ : Type} {jv : JVLink κ} {client : StreamClient ρ} {query : StoredQuery}

structure StreamPhases (jv : JVLink κ) (client : StreamClient ρ) (query : StoredQuery)
    (opening reading : World κ ρ → Prop) (thrown : Exception → World κ ρ → Prop) : Prop where
  status : Ensures opening (invokeComCall jv "jv_status" (·.statusTimeout) (performJVStatus jv))
    (fun _ => opening) thrown
  abandons : Ensures opening
    (attempt (invokeComCall jv "jv_cancel" (·.controlTimeout) (performJVCancel jv)))
    (fun _ => opening) thrown
  pollsOpening : Ensures opening (shouldCancel client) (fun _ => opening) thrown
  describes result : result.success = true →
    Ensures opening (metaCallback client result) (fun _ => reading) thrown
  gets filename : Ensures reading
    (invokeComCall jv "jv_gets" (·.streamReadTimeout) (jvGetsWithRetry jv filename))
    (fun _ => reading) thrown
  skips : Ensures reading (invokeComCall jv "jv_skip" (·.controlTimeout) (performJVSkip jv))
    (fun _ => reading) thrown
  records record : Ensures reading (recordCallback client record) (fun _ => reading) thrown
  pollsReading : Ensures reading (shouldCancel client) (fun _ => reading) thrown
  cancels message world : opening world ∨ reading world →
    thrown (.jvOperationCanceled message) world
  breaks code message world : reading world → thrown (.jvStreamRead code message) world
  goesOn world : reading world → thrown .stillRunning world

/-- The query has come to the end of what it was asked for. -/
def StreamEnd.isNormal : StreamEnd → Bool
  | .noFiles | .endOfFiles | .limitReached => true
  | .notInitialized | .openFailed | .downloadFailed => false

/-- A query that ends otherwise has reported a failure. -/
def EndedFor (refused reading : World κ ρ → Prop) (reason : StreamEnd) (world : World κ ρ) : Prop :=
  if reason.isNormal then reading world else refused world

/-- The JVOpen of a query. -/
def openCall (jv : JVLink κ) (query : StoredQuery) : Action κ ρ OpenReply :=
  invokeComCall jv "jv_open" query.openTimeout
    (performJVOpen jv query.dataspec query.fromTime query.option)

/-- The rest of `openAndStream`. -/
def streamOpened (jv : JVLink κ) (client : StreamClient ρ) (query : StoredQuery) (fuel : Nat)
    (reply : OpenReply) : Action κ ρ StreamEnd := do
  throwIfCanceled client "Stored stream canceled after JVOpen"
  let openResult := reply.result.lVal (-1)
  if openResult < 0 && openResult ≠ jvErrorNoData then
    metaCallback client
      { errorCode := openResult
        errorMessage := "JV-Link API error: " ++ getErrorMessage openResult }
    return .openFailed
  if 0 < reply.downloadCount then
    let (downloadResult, statusCode) ← waitForDownload jv client reply.downloadCount
    throwIfCanceled client "Stored stream canceled during download wait"
    if !downloadResult then
      let errorCode := if statusCode < 0 then statusCode else jvErrorDownloadFailed
      metaCallback client
        { errorCode, errorMessage := "JVStatus failed: " ++ getErrorMessage errorCode }
      return .downloadFailed
    streamRecords jv client query fuel reply
  else streamRecords jv client query fuel reply

theorem openAndStream_eq (fuel : Nat) :
    openAndStream jv client query fuel = (openCall jv query >>= streamOpened jv client query fuel) :=
  rfl

namespace StreamPhases

variable {opening reading : World κ ρ → Prop} {thrown : Exception → World κ ρ → Prop}
  (phases : StreamPhases jv client query opening reading thrown)
include phases

theorem throwIfCanceledOpening (message : String) :
    Ensures opening (throwIfCanceled client message) (fun _ => opening) thrown := by
  refine Ensures.bind phases.pollsOpening fun answer => ?_
  refine Ensures.ite (fun _ => ?_) fun _ => Ensures.pure fun _ holds => holds
  exact Ensures.throw fun world holds => phases.cancels message world (.inl holds)

theorem throwIfCanceledReading (message : String) :
    Ensures reading (throwIfCanceled client message) (fun _ => reading) thrown := by
  refine Ensures.bind phases.pollsReading fun answer => ?_
  refine Ensures.ite (fun _ => ?_) fun _ => Ensures.pure fun _ holds => holds
  exact Ensures.throw fun world holds => phases.cancels message world (.inr holds)

theorem waitForDownloadRounds (downloadCount : Int) (rounds : Nat) :
    Ensures opening (waitForDownloadRounds jv client downloadCount rounds) (fun _ => opening)
      thrown := by
  induction rounds with
  | zero => exact Ensures.pure fun _ holds => holds
  | succ rounds ih =>
      refine Ensures.bind phases.pollsOpening fun answer => ?_
      refine Ensures.ite (fun _ => ?_) fun _ => ?_
      · exact Ensures.bind phases.abandons fun _ => Ensures.pure fun _ holds => holds
      refine Ensures.bind phases.status fun status => ?_
      refine Ensures.ite (fun _ => Ensures.pure fun _ holds => holds) fun _ => ?_
      exact Ensures.ite (fun _ => Ensures.pure fun _ holds => holds) fun _ => ih

theorem deliverRecord (progress : ReadProgress) (record : Bytes) :
    Ensures reading (deliverRecord jv client query progress record) (fun _ => reading) thrown := by
  refine Ensures.ite (fun _ => ?_) fun _ => ?_
  · exact Ensures.bind phases.skips fun _ => Ensures.pure fun _ holds => holds
  · refine Ensures.bind (phases.records record) fun _ => ?_
    exact Ensures.bind (phases.throwIfCanceledReading _) fun _ => Ensures.pure fun _ holds => holds

theorem readOnce (progress : ReadProgress) :
    Ensures reading (readOnce jv client query progress) (fun _ => reading) thrown := by
  refine Ensures.bind (phases.throwIfCanceledReading _) fun _ => ?_
  refine Ensures.bind (phases.gets progress.filename) fun result => ?_
  refine Ensures.bind (phases.throwIfCanceledReading _) fun _ => ?_
  refine Ensures.ite (fun _ => ?_) fun _ => ?_
  · cases result.buffer with
    | some record => exact phases.deliverRecord _ record
    | none => exact Ensures.pure fun _ holds => holds
  refine Ensures.ite (fun _ => Ensures.pure fun _ holds => holds) fun _ => ?_
  refine Ensures.ite (fun _ => Ensures.pure fun _ holds => holds) fun _ => ?_
  exact Ensures.throw (phases.breaks _ _)

theorem readLoop (fuel : Nat) (progress : ReadProgress) :
    Ensures reading (readLoop jv client query fuel progress)
      (fun reason world => reason.isNormal = true ∧ reading world) thrown := by
  induction fuel generalizing progress with
  | zero => exact Ensures.throw phases.goesOn
  | succ fuel ih =>
      refine Ensures.ite (fun _ => ?_) fun _ => ?_
      · refine Ensures.bind (phases.readOnce progress) fun next => ?_
        cases next with
        | some next => exact ih next
        | none => exact Ensures.pure fun _ holds => ⟨rfl, holds⟩
      refine Ensures.ite (fun _ => Ensures.throw (phases.breaks _ _)) fun _ => ?_
      exact Ensures.pure fun _ holds => ⟨rfl, holds⟩

theorem streamRecords (fuel : Nat) (reply : OpenReply) :
    Ensures opening (streamRecords jv client query fuel reply)
      (fun reason world => reason.isNormal = true ∧ reading world) thrown := by
  refine Ensures.bind (phases.throwIfCanceledOpening _) fun _ => ?_
  refine Ensures.bind (phases.describes _ rfl) fun _ => ?_
  exact Ensures.ite (fun _ => phases.readLoop fuel {}) fun _ => Ensures.pure fun _ holds => ⟨rfl, holds⟩

/-- The report of a failure may end in exceptions of its own. -/
theorem streamOpened {refused : World κ ρ → Prop} {thrown' : Exception → World κ ρ → Prop}
    (fails : ∀ result : JVQueryResult, result.success = false → result.errorCode < 0 →
      Ensures opening (metaCallback client result) (fun _ => refused) thrown')
    (weaker : ∀ exception world, thrown exception world → thrown' exception world)
    (fuel : Nat) (reply : OpenReply) :
    Ensures opening (Core.streamOpened jv client query fuel reply) (EndedFor refused reading)
      thrown' := by
  have failed (result : JVQueryResult) (reason : StreamEnd) (failure : result.success = false)
      (negative : result.errorCode < 0) (unsuccessful : reason.isNormal = false) :
      Ensures opening (do metaCallback client result; return reason) (EndedFor refused reading)
        thrown' := by
    refine Ensures.bind (fails result failure negative) fun _ => Ensures.pure fun _ holds => ?_
    simpa [EndedFor, unsuccessful] using holds
  have streamed : Ensures opening (Core.streamRecords jv client query fuel reply)
      (EndedFor refused reading) thrown' :=
    (phases.streamRecords fuel reply).mono (fun _ holds => holds)
      (fun reason world ⟨normal, holds⟩ => by simpa [EndedFor, normal] using holds) weaker
  refine Ensures.bind ((phases.throwIfCanceledOpening _).raise weaker) fun _ => ?_
  refine Ensures.ite (fun error => ?_) fun _ => ?_
  · simp only [Bool.and_eq_true, decide_eq_true_eq] at error
    exact failed _ _ rfl error.1 rfl
  refine Ensures.ite (fun _ => ?_) fun _ => streamed
  refine Ensures.bind ((phases.waitForDownloadRounds _ _).raise weaker)
    fun (downloadResult, statusCode) => ?_
  refine Ensures.bind ((phases.throwIfCanceledOpening _).raise weaker) fun _ => ?_
  refine Ensures.ite (fun _ => ?_) fun _ => streamed
  refine failed _ _ rfl ?_ rfl
  change (if statusCode < 0 then statusCode else jvErrorDownloadFailed) < 0
  split
  · assumption
  · decide

end StreamPhases

end StreamPhases

end JVLinkServer.Core
