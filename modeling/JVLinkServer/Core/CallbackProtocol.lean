import JVLinkServer.Core.RecordedRuns
import JVLinkServer.Core.StreamPhases

namespace JVLinkServer.Core

open Effects

/-! # What a stored query tells its client

The callbacks of a query on an initialised wrapper are none, one meta callback that
reports a failure, or one that reports success and then records.
-/

def Unannounced (callbacks : List CallbackCall) : Prop := callbacks = []

/-- The one report of a failure. -/
structure RefusedWith (result : JVQueryResult) (callbacks : List CallbackCall) : Prop where
  failed : result.success = false
  negative : result.errorCode < 0
  alone : callbacks = [.metaCallback result]

def Streamed (callbacks : List CallbackCall) : Prop :=
  ∃ (result : JVQueryResult) (records : List Bytes), result.success = true ∧
    callbacks = .metaCallback result :: records.map .recordCallback

/-- Nothing has closed the session. -/
def StillOpen (calls : List StreamCall) : Prop := .jvClose ∉ calls

theorem StillOpen.concat {calls : List StreamCall} {call : StreamCall} (still : StillOpen calls)
    (other : call ≠ .jvClose) : StillOpen (calls ++ [call]) := by
  intro closed
  rcases List.mem_append.mp closed with earlier | last
  · exact still earlier
  · exact other (List.mem_singleton.mp last).symm

section Protocol

variable {κ ρ : Type} {jv : JVLink κ} {client : StreamClient ρ} {query : StoredQuery}

/-- The callbacks so far, in a session that is not closed. -/
abbrev OpenWith (kept : List CallbackCall → Prop) : RecordedWorld κ ρ → Prop :=
  OnRecord fun calls callbacks => StillOpen calls ∧ kept callbacks

abbrev World.Opening : RecordedWorld κ ρ → Prop := OpenWith Unannounced

abbrev World.Streaming : RecordedWorld κ ρ → Prop := OpenWith Streamed

abbrev World.FailedWith (result : JVQueryResult) : RecordedWorld κ ρ → Prop :=
  OpenWith (RefusedWith result)

/-- A COM call of the query, which does not touch the callbacks. -/
theorem comCall_protocol {α : Type} {kept : List CallbackCall → Prop}
    {callable : Action (κ × List StreamCall) (ρ × List CallbackCall) α}
    (runs : Ensures (OpenWith kept) callable
      (fun _ => OpenWith kept) fun _ _ => False)
    (operationName : String) (timeout : TimeoutConfig → Nat) :
    Ensures (OpenWith kept)
      (invokeComCall jv.recorded operationName timeout callable)
      (fun _ => OpenWith kept)
      (fun _ => OpenWith kept) :=
  (invokeComCall_rule onRecord_aside onRecord_aside (fun _ holds => holds) (fun _ _ holds => holds)
    runs (fun _ => onRecord_aside) operationName timeout).raise fun _ _ thrown => thrown.2

theorem reads_protocol {α : Type} {kept : List CallbackCall → Prop} {method : κ → Reply × κ}
    {call : StreamCall} (other : call ≠ .jvClose) (value : Reply → α) :
    Ensures (OpenWith (κ := κ) (ρ := ρ) kept)
      (do return value (← invokeMethod (recordedAs (fun _ => call) method)))
      (fun _ => OpenWith kept) fun _ _ => False :=
  reads_recorded value (fun _ _ holds => holds)
    fun _ _ holds => ⟨holds.1.concat other, holds.2⟩

theorem performJVStatus_protocol {kept : List CallbackCall → Prop} :
    Ensures (OpenWith (κ := κ) (ρ := ρ) kept)
      (performJVStatus jv.recorded)
      (fun _ => OpenWith kept) fun _ _ => False := by
  refine Ensures.bind Ensures.peek fun world => ?_
  refine Ensures.ite (fun _ => Ensures.pure fun _ holds => holds) fun _ => ?_
  exact reads_protocol (by simp) _

theorem jvGets_protocol {kept : List CallbackCall → Prop} (attemptsLeft : Nat) (filename : Bytes) :
    Ensures (OpenWith (κ := κ) (ρ := ρ) kept)
      (jvGets jv.recorded attemptsLeft none filename)
      (fun _ => OpenWith kept) fun _ _ => False := by
  refine Ensures.bind Ensures.peek fun world => ?_
  refine Ensures.ite (fun _ => Ensures.pure fun _ holds => holds) fun _ => ?_
  have asked : Ensures (OpenWith (κ := κ) (ρ := ρ) kept) (ask jv.recorded.jvGets)
      (fun _ => OpenWith kept) fun _ _ => False := fun _ holds => ⟨holds.1.concat (by simp), holds.2⟩
  refine Ensures.bind asked fun reply => ?_
  exact Ensures.bind (Ensures.update fun _ holds => holds) fun _ => Ensures.pure fun _ holds => holds

theorem jvGetsAttempts_protocol {kept : List CallbackCall → Prop} (attemptsLeft : Nat)
    (filename : Bytes) :
    Ensures (OpenWith (κ := κ) (ρ := ρ) kept)
      (jvGetsAttempts jv.recorded attemptsLeft filename)
      (fun _ => OpenWith kept) fun _ _ => False := by
  induction attemptsLeft generalizing filename with
  | zero => exact jvGets_protocol 0 filename
  | succ attemptsLeft ih =>
      refine Ensures.bind (jvGets_protocol (attemptsLeft + 1) filename) fun result => ?_
      refine Ensures.ite (fun _ => ?_) fun _ => Ensures.pure fun _ holds => holds
      have recorded : Ensures (OpenWith (κ := κ) (ρ := ρ) kept)
          (recordFile (.filedelete result.filename))
          (fun _ => OpenWith kept) fun _ _ => False := Ensures.update fun _ holds => holds
      refine Ensures.bind (Ensures.bind recorded fun _ => ?_) fun _ => ih result.filename
      exact reads_protocol (by simp) _

/-- What holds whenever a query is left before it has reported a failure. -/
def World.Underway (world : RecordedWorld κ ρ) : Prop := world.Opening ∨ world.Streaming

variable (jv client query) in
theorem stream_protocol :
    StreamPhases jv.recorded client.recorded query World.Opening World.Streaming
      (fun _ => World.Underway (κ := κ)) where
  status := (comCall_protocol performJVStatus_protocol _ _).raise fun _ _ => .inl
  abandons := Ensures.attempt (comCall_protocol (reads_protocol (by simp) _) _ _)
  pollsOpening := (shouldCancel_recorded client).raise fun _ _ => .inl
  describes result succeeded := by
    refine (metaCallback_recorded result fun calls callbacks opening => ?_).raise
      fun _ _ raised => .inr raised.2
    obtain ⟨still, rfl⟩ := opening
    exact ⟨still, result, [], succeeded, rfl⟩
  gets filename :=
    (comCall_protocol (Ensures.bind Ensures.peek fun _ => jvGetsAttempts_protocol _ filename)
      _ _).raise fun _ _ => .inr
  skips := (comCall_protocol (reads_protocol (by simp) _) _ _).raise fun _ _ => .inr
  records record := by
    refine (recordCallback_recorded record fun calls callbacks streaming => ?_).raise
      fun _ _ raised => .inr raised.2
    obtain ⟨still, result, records, succeeded, rfl⟩ := streaming
    exact ⟨still, result, records ++ [record], succeeded, by simp⟩
  pollsReading := (shouldCancel_recorded client).raise fun _ _ => .inr
  cancels _ _ underway := underway
  breaks _ _ _ := .inr
  goesOn _ := .inr

/-- An exception after the report of a failure is the client's own. -/
def World.LeftBy (client : StreamClient ρ) (exception : Exception) (world : RecordedWorld κ ρ) :
    Prop :=
  world.Underway ∨ ∃ result, world.FailedWith result ∧ Raises (client.metaCallback result) exception

variable (client) in
theorem metaCallback_refused (result : JVQueryResult) (failed : result.success = false)
    (negative : result.errorCode < 0) :
    Ensures (World.Opening (κ := κ)) (metaCallback client.recorded result)
      (fun _ => World.FailedWith result)
      (fun exception world => Raises (client.metaCallback result) exception ∧
        world.FailedWith result) := by
  refine metaCallback_recorded result fun calls callbacks opening => ?_
  obtain ⟨still, rfl⟩ := opening
  exact ⟨still, failed, negative, rfl⟩

theorem refused_protocol (result : JVQueryResult) (failed : result.success = false)
    (negative : result.errorCode < 0) :
    Ensures (World.Opening (κ := κ)) (metaCallback client.recorded result)
      (fun _ world => ∃ result, world.FailedWith result) (World.LeftBy client) :=
  (metaCallback_refused client result failed negative).mono (fun _ opening => opening)
    (fun _ _ ended => ⟨result, ended⟩) fun _ _ raised => .inr ⟨result, raised.2, raised.1⟩

variable (jv query) in
theorem openCall_protocol :
    Ensures World.Opening (openCall (ρ := ρ × List CallbackCall) jv.recorded query)
      (fun _ => World.Opening) (fun _ => World.Opening) := by
  refine comCall_protocol (Ensures.bind Ensures.peek fun world => ?_) _ _
  refine Ensures.ite (fun _ => Ensures.pure fun _ holds => holds) fun _ => ?_
  have asked : Ensures (World.Opening (κ := κ) (ρ := ρ))
      (ask (jv.recorded.jvOpen (convertUtf8ToBSTR query.dataspec) (convertUtf8ToBSTR query.fromTime)
        query.option))
      (fun _ => World.Opening) fun _ _ => False := fun _ holds => ⟨holds.1.concat (by simp), holds.2⟩
  refine Ensures.bind asked fun reply => ?_
  exact Ensures.ite (fun _ => Ensures.pure fun _ holds => holds) fun _ =>
    Ensures.pure fun _ holds => holds

variable (jv client query) in
theorem openAndStream_protocol (fuel : Nat) :
    Ensures World.Opening (openAndStream jv.recorded client.recorded query fuel)
      (EndedFor (fun world => ∃ result, world.FailedWith result) (World.Streaming (κ := κ)))
      (World.LeftBy client) := by
  rw [openAndStream_eq]
  refine Ensures.bind ((openCall_protocol jv query).raise fun _ _ opening => .inl (.inl opening))
    fun reply => ?_
  exact (stream_protocol jv client query).streamOpened refused_protocol (fun _ _ => .inl) fuel reply

variable (jv client query) in
/-- What a query has told its client when it is left. -/
theorem openAndStream_final {world : RecordedWorld κ ρ} (fuel : Nat) (opening : world.Opening) :
    (finalState (openAndStream jv.recorded client.recorded query fuel world)).Underway ∨
      ∃ result, (finalState
        (openAndStream jv.recorded client.recorded query fuel world)).FailedWith result := by
  have ended := openAndStream_protocol jv client query fuel world
    opening
  cases run : openAndStream jv.recorded client.recorded query fuel world with
  | ok reason after =>
      rw [run] at ended
      unfold Ends EndedFor at ended
      simp only at ended
      split at ended
      · exact .inl (.inr ended)
      · exact .inr ended
  | error exception after =>
      rw [run] at ended
      rcases ended with underway | ⟨result, failed, -⟩
      · exact .inl underway
      · exact .inr ⟨result, failed⟩

theorem opening_recorded (world : World κ ρ) : world.recorded.Opening :=
  ⟨List.not_mem_nil, rfl⟩

theorem not_refused_of_underway {world : RecordedWorld κ ρ} {result : JVQueryResult}
    (underway : world.Underway) : ¬ RefusedWith result world.callbacks := by
  intro ⟨failed, _, alone⟩
  rcases underway with ⟨-, silent⟩ | ⟨-, described, records, succeeded, told⟩
  · rw [silent] at alone
    cases alone
  · rw [told] at alone
    obtain ⟨same, -⟩ := List.cons.inj alone
    cases same
    simp [succeeded] at failed

/-! ## Closing -/

variable (jv) in
/-- The destructor of the guard closes the session or does not get to. -/
theorem closeSession_protocol (made : List StreamCall) (said : List CallbackCall) :
    Ensures (OnRecord (κ := κ) (ρ := ρ) fun calls callbacks => calls = made ∧ callbacks = said)
      (closeSession jv.recorded)
      (fun _ => OnRecord fun calls callbacks =>
        (calls = made ∨ calls = made ++ [.jvClose]) ∧ callbacks = said)
      fun _ _ => False := by
  have closes : Ensures
      (OnRecord (κ := κ) (ρ := ρ) fun calls callbacks => calls = made ∧ callbacks = said)
      (performJVClose jv.recorded)
      (fun _ => OnRecord fun calls callbacks =>
        (calls = made ∨ calls = made ++ [.jvClose]) ∧ callbacks = said) fun _ _ => False := by
    refine Ensures.bind Ensures.peek fun world => ?_
    refine Ensures.ite (fun _ => Ensures.pure fun _ holds => ⟨.inl holds.1, holds.2⟩) fun _ => ?_
    exact reads_recorded _ (fun _ _ holds => ⟨.inl holds.1, holds.2⟩)
      fun _ _ holds => ⟨.inr (by rw [holds.1]), holds.2⟩
  refine Ensures.bind Ensures.peek fun world => ?_
  refine Ensures.bind (Ensures.attempt ?_) fun _ => observe_recorded
  refine (runOnComThread_rule onRecord_aside onRecord_aside (fun world holds => ?_)
    (fun _ _ holds => holds) closes "jv_close" _).raise fun _ _ left => left.2
  exact ⟨.inl holds.1, holds.2⟩

theorem closeSession_callbacks (world : RecordedWorld κ ρ) :
    (finalState (closeSession jv.recorded world)).callbacks = world.callbacks := by
  have closed := closeSession_protocol jv world.calls world.callbacks world ⟨rfl, rfl⟩
  cases ended : closeSession jv.recorded world with
  | ok _ after =>
      rw [ended] at closed
      exact closed.2
  | error _ after =>
      rw [ended] at closed
      exact closed.elim

theorem queryStored_guarded (world : World κ ρ) (initialized : world.wrapper.isInitialized = true)
    (fuel : Nat) :
    queryStored jv client query fuel world =
      withSessionGuard jv (openAndStream jv client query fuel) world := by
  simp [queryStored, bind, EStateM.bind, Effects.read, initialized]

theorem queryStored_callbacks (world : RecordedWorld κ ρ)
    (initialized : world.wrapper.isInitialized = true) (fuel : Nat) :
    (finalState (queryStored jv.recorded client.recorded query fuel world)).callbacks =
      (finalState (openAndStream jv.recorded client.recorded query fuel world)).callbacks := by
  rw [queryStored_guarded world initialized]
  unfold withSessionGuard Effects.afterwards
  cases openAndStream jv.recorded client.recorded query fuel world with
  | ok reason after => exact closeSession_callbacks after
  | error exception after =>
      cases unwinding : exception.unwinds with
      | true => simpa [finalState, unwinding] using closeSession_callbacks after
      | false => simp [finalState, unwinding]

end Protocol

end JVLinkServer.Core
