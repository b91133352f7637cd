import JVLinkServer.Core.Queries

namespace JVLinkServer.Core

open Effects

/-! # Rules for a stored query

A proof about `queryStored` says what each call of the stream does to its
assertions.  The walk through the control flow is made once, here.
-/

section StreamRules

variable {κ ρ : Type} {jv : JVLink κ} {client : StreamClient ρ} {query : StoredQuery}

/-- `reading` holds while the stream goes on, for the current content of the name
buffer, `canceled` once a poll has answered yes, and `recalled` when the next one
answers no. -/
structure StreamRules (jv : JVLink κ) (client : StreamClient ρ) (query : StoredQuery)
    (reading : Bytes → World κ ρ → Prop) (canceled recalled : World κ ρ → Prop)
    (ended : StreamEnd → World κ ρ → Prop) (thrown : Exception → World κ ρ → Prop) : Prop where
  opens : Ensures (reading [])
    (invokeComCall jv "jv_open" query.openTimeout
      (performJVOpen jv query.dataspec query.fromTime query.option)) (fun _ => reading []) thrown
  status : Ensures (reading [])
    (invokeComCall jv "jv_status" (·.statusTimeout) (performJVStatus jv)) (fun _ => reading []) thrown
  abandons : Ensures canceled
    (attempt (invokeComCall jv "jv_cancel" (·.controlTimeout) (performJVCancel jv)))
    (fun _ => canceled) thrown
  gets filename : Ensures (reading filename)
    (invokeComCall jv "jv_gets" (·.streamReadTimeout) (jvGetsWithRetry jv filename))
    (fun result => reading result.filename) thrown
  skips filename : Ensures (reading filename)
    (invokeComCall jv "jv_skip" (·.controlTimeout) (performJVSkip jv))
    (fun _ => reading filename) thrown
  polls filename : Ensures (reading filename) (shouldCancel client)
    (fun answer world => if answer then canceled world else reading filename world) thrown
  pollsAgain : Ensures canceled (shouldCancel client)
    (fun answer world => if answer then canceled world else recalled world) thrown
  describes result : result.success = true →
    Ensures (reading []) (metaCallback client result) (fun _ => reading []) thrown
  fails result reason : result.success = false →
    Ensures (fun world => reading [] world ∨ recalled world) (metaCallback client result)
      (fun _ => ended reason) thrown
  records filename record :
    Ensures (reading filename) (recordCallback client record) (fun _ => reading filename) thrown
  cancels message world : canceled world → thrown (.jvOperationCanceled message) world
  breaks code message filename world : reading filename world →
    thrown (.jvStreamRead code message) world
  goesOn filename world : reading filename world → thrown .stillRunning world
  completes reason filename world :
    reason = .noFiles ∨ reason = .endOfFiles ∨ reason = .limitReached →
      reading filename world → ended reason world

namespace StreamRules

variable {reading : Bytes → World κ ρ → Prop} {canceled recalled : World κ ρ → Prop}
  {ended : StreamEnd → World κ ρ → Prop} {thrown : Exception → World κ ρ → Prop}
  (rules : StreamRules jv client query reading canceled recalled ended thrown)
include rules

theorem throwIfCanceled (filename : Bytes) (message : String) :
    Ensures (reading filename) (throwIfCanceled client message) (fun _ => reading filename)
      thrown := by
  refine Ensures.bind (rules.polls filename) fun answer => ?_
  cases answer with
  | true => exact Ensures.throw (rules.cancels message)
  | false => exact Ensures.pure fun _ holds => holds

/-- After the wait for the download a poll may have answered yes before. -/
theorem throwIfCanceledAgain (message : String) :
    Ensures (fun world => reading [] world ∨ canceled world) (Core.throwIfCanceled client message)
      (fun _ world => reading [] world ∨ recalled world) thrown := by
  rintro world (holds | holds)
  · exact (rules.throwIfCanceled [] message world holds).mono (fun _ _ => .inl) fun _ _ holds => holds
  · have again : Ensures canceled (Core.throwIfCanceled client message) (fun _ => recalled) thrown := by
      refine Ensures.bind rules.pollsAgain fun answer => ?_
      cases answer with
      | true => exact Ensures.throw (rules.cancels message)
      | false => exact Ensures.pure fun _ holds => holds
    exact (again world holds).mono (fun _ _ => .inr) fun _ _ holds => holds

theorem waitForDownloadRounds (downloadCount : Int) (rounds : Nat) :
    Ensures (reading []) (waitForDownloadRounds jv client downloadCount rounds)
      (fun waited world => reading [] world ∨ waited.1 = false ∧ canceled world) thrown := by
  induction rounds with
  | zero => exact Ensures.pure fun _ holds => .inl holds
  | succ rounds ih =>
      refine Ensures.bind (rules.polls []) fun answer => ?_
      cases answer with
      | true =>
          refine Ensures.bind rules.abandons fun _ => ?_
          exact Ensures.pure fun _ holds => .inr ⟨rfl, holds⟩
      | false =>
          refine Ensures.bind rules.status fun status => ?_
          refine Ensures.ite (fun _ => Ensures.pure fun _ => .inl) fun _ => ?_
          exact Ensures.ite (fun _ => Ensures.pure fun _ => .inl) fun _ => ih

/-- What holds after a turn of the read loop, also after the last one. -/
def Continues (reading : Bytes → World κ ρ → Prop) (next : Option ReadProgress) (world : World κ ρ) :
    Prop :=
  match next with
  | some progress => reading progress.filename world
  | none => ∃ filename, reading filename world

theorem deliverRecord (progress : ReadProgress) (record : Bytes) :
    Ensures (reading progress.filename) (deliverRecord jv client query progress record)
      (Continues reading) thrown := by
  refine Ensures.ite (fun _ => ?_) fun _ => ?_
  · refine Ensures.bind (rules.skips progress.filename) fun _ => ?_
    exact Ensures.pure fun _ holds => holds
  · refine Ensures.bind (rules.records progress.filename record) fun _ => ?_
    refine Ensures.bind (rules.throwIfCanceled progress.filename _) fun _ => ?_
    exact Ensures.pure fun _ holds => holds

theorem readOnce (progress : ReadProgress) :
    Ensures (reading progress.filename) (readOnce jv client query progress) (Continues reading)
      thrown := by
  refine Ensures.bind (rules.throwIfCanceled progress.filename _) fun _ => ?_
  refine Ensures.bind (rules.gets progress.filename) fun result => ?_
  refine Ensures.bind (rules.throwIfCanceled result.filename _) fun _ => ?_
  refine Ensures.ite (fun _ => ?_) fun _ => ?_
  · cases result.buffer with
    | some record => exact rules.deliverRecord { progress with filename := result.filename } record
    | none => exact Ensures.pure fun _ holds => holds
  refine Ensures.ite (fun _ => Ensures.pure fun _ holds => ⟨_, holds⟩) fun _ => ?_
  refine Ensures.ite (fun _ => Ensures.pure fun _ holds => holds) fun _ => ?_
  exact Ensures.throw (rules.breaks _ _ _)

theorem readLoop (fuel : Nat) (progress : ReadProgress) :
    Ensures (reading progress.filename) (readLoop jv client query fuel progress) ended thrown := by
  induction fuel generalizing progress with
  | zero => exact Ensures.throw (rules.goesOn _)
  | succ fuel ih =>
      refine Ensures.ite (fun _ => ?_) fun _ => ?_
      · refine Ensures.bind (rules.readOnce progress) fun next => ?_
        cases next with
        | some next => exact ih next
        | none =>
            refine Ensures.pure fun world ⟨filename, holds⟩ => ?_
            exact rules.completes .endOfFiles filename world (.inr (.inl rfl)) holds
      refine Ensures.ite (fun _ => Ensures.throw (rules.breaks _ _ _)) fun _ => ?_
      exact Ensures.pure fun world => rules.completes .limitReached _ world (.inr (.inr rfl))

theorem streamRecords (fuel : Nat) (reply : OpenReply) :
    Ensures (reading []) (streamRecords jv client query fuel reply) ended thrown := by
  refine Ensures.bind (rules.throwIfCanceled [] _) fun _ => ?_
  refine Ensures.bind (rules.describes _ rfl) fun _ => ?_
  refine Ensures.ite (fun _ => rules.readLoop fuel {}) fun _ => ?_
  exact Ensures.pure fun world => rules.completes .noFiles [] world (.inl rfl)

theorem openAndStream (fuel : Nat) :
    Ensures (reading []) (openAndStream jv client query fuel) ended thrown := by
  refine Ensures.bind rules.opens fun reply => ?_
  refine Ensures.bind (rules.throwIfCanceled [] _) fun _ => ?_
  refine Ensures.ite (fun _ => ?_) fun _ => ?_
  · exact Ensures.bind ((rules.fails _ .openFailed rfl).mono (fun _ => .inl)
      (fun _ _ holds => holds) fun _ _ holds => holds) fun _ => Ensures.pure fun _ holds => holds
  refine Ensures.ite (fun _ => ?_) fun _ => rules.streamRecords fuel reply
  refine Ensures.bind (rules.waitForDownloadRounds _ _) fun (downloadResult, statusCode) => ?_
  cases downloadResult with
  | true =>
      have waited := Ensures.bind (rules.throwIfCanceled [] "Stored stream canceled during download wait")
        fun _ => rules.streamRecords fuel reply
      exact waited.mono (fun _ holds => by simpa using holds) (fun _ _ holds => holds)
        fun _ _ holds => holds
  | false =>
      have failed := Ensures.bind
        (rules.throwIfCanceledAgain "Stored stream canceled during download wait") fun _ =>
          Ensures.bind (rules.fails
            { errorCode := if statusCode < 0 then statusCode else jvErrorDownloadFailed
              errorMessage := "JVStatus failed: " ++
                getErrorMessage (if statusCode < 0 then statusCode else jvErrorDownloadFailed) }
            .downloadFailed rfl) fun _ => Ensures.pure fun _ holds => holds
      exact failed.mono (fun _ holds => by simpa using holds) (fun _ _ holds => holds)
        fun _ _ holds => holds

end StreamRules

end StreamRules

end JVLinkServer.Core
