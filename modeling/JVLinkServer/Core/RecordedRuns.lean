import JVLinkServer.Core.ComCallRules

namespace JVLinkServer.Core

open Effects

/-! # Recorded runs

The calls that a stored query makes are written down on their way: those of JV-Link
beside its state, those of the callbacks beside the state of the client.
-/

/-- A method of JV-Link that a stored query calls. -/
inductive StreamCall
  | jvOpen (reply : OpenReply)
  | jvStatus
  | jvCancel
  | jvGets
  | jvSkip
  | jvFiledelete
  | jvClose

inductive CallbackCall
  | metaCallback (result : JVQueryResult)
  | recordCallback (record : Bytes)
  deriving DecidableEq, Repr

section Recording

variable {κ ρ α : Type}

def unrecorded (question : κ → α × κ) (state : κ × List StreamCall) :
    α × (κ × List StreamCall) :=
  ((question state.1).1, (question state.1).2, state.2)

def recordedAs (call : α → StreamCall) (question : κ → α × κ) (state : κ × List StreamCall) :
    α × (κ × List StreamCall) :=
  ((question state.1).1, (question state.1).2, state.2 ++ [call (question state.1).1])

/-- The same JV-Link, with a record of the calls of a stream. -/
def JVLink.recorded (jv : JVLink κ) : JVLink (κ × List StreamCall) where
  now := unrecorded jv.now
  taskFate taskName := unrecorded (jv.taskFate taskName)
  createInstance := unrecorded jv.createInstance
  adviseEventSink := unrecorded jv.adviseEventSink
  jvInit sid := unrecorded (jv.jvInit sid)
  jvOpen dataspec fromtime option := recordedAs .jvOpen (jv.jvOpen dataspec fromtime option)
  jvrtOpen dataspec key := unrecorded (jv.jvrtOpen dataspec key)
  jvStatus := recordedAs (fun _ => .jvStatus) jv.jvStatus
  jvCancel := recordedAs (fun _ => .jvCancel) jv.jvCancel
  jvGets := recordedAs (fun _ => .jvGets) jv.jvGets
  jvSkip := recordedAs (fun _ => .jvSkip) jv.jvSkip
  jvFiledelete filename := recordedAs (fun _ => .jvFiledelete) (jv.jvFiledelete filename)
  jvClose := recordedAs (fun _ => .jvClose) jv.jvClose
  jvWatchEvent := unrecorded jv.jvWatchEvent
  jvWatchEventClose := unrecorded jv.jvWatchEventClose
  jvFukuFile pattern filepath := unrecorded (jv.jvFukuFile pattern filepath)
  jvFuku pattern := unrecorded (jv.jvFuku pattern)
  jvCourseFile key := unrecorded (jv.jvCourseFile key)
  jvCourseFile2 key filepath := unrecorded (jv.jvCourseFile2 key filepath)

/-- A callback that leaves these calls on record, also when it throws. -/
def noting (calls : List CallbackCall) (action : EStateM Exception ρ α) :
    EStateM Exception (ρ × List CallbackCall) α :=
  fun state =>
    match action state.1 with
    | .ok value after => .ok value (after, state.2 ++ calls)
    | .error exception after => .error exception (after, state.2 ++ calls)

def StreamClient.recorded (client : StreamClient ρ) : StreamClient (ρ × List CallbackCall) where
  recordCallback record := noting [.recordCallback record] (client.recordCallback record)
  metaCallback result := noting [.metaCallback result] (client.metaCallback result)
  cancelRequested := noting [] client.cancelRequested

/-- A world in which nothing is on record yet. -/
def World.recorded (world : World κ ρ) : World (κ × List StreamCall) (ρ × List CallbackCall) where
  wrapper := world.wrapper
  worker := world.worker
  env := (world.env, [])
  client := (world.client, [])
  observed := world.observed
  timedOut := world.timedOut
  files := world.files

abbrev RecordedWorld (κ ρ : Type) := World (κ × List StreamCall) (ρ × List CallbackCall)

def World.calls (world : RecordedWorld κ ρ) : List StreamCall := world.env.2

def World.callbacks (world : RecordedWorld κ ρ) : List CallbackCall := world.client.2

/-- The callback throws this from some state. -/
def Raises (action : EStateM Exception ρ α) (exception : Exception) : Prop :=
  ∃ before after, action before = .error exception after

/-- What is on record satisfies `kept`. -/
def OnRecord (kept : List StreamCall → List CallbackCall → Prop) (world : RecordedWorld κ ρ) : Prop :=
  kept world.calls world.callbacks

end Recording

section RecordingRules

variable {κ ρ α : Type} {jv : JVLink κ} {client : StreamClient ρ}
  {kept kept' : List StreamCall → List CallbackCall → Prop}
  {thrown : Exception → RecordedWorld κ ρ → Prop}

theorem onRecord_aside : Aside jv.recorded (OnRecord (κ := κ) (ρ := ρ) kept) where
  now _ holds := holds
  taskFate _ _ holds := holds
  health _ _ _ _ _ holds := holds

/-- A method whose call goes on record, if there is an instance to call. -/
theorem invokeMethod_recorded (method : κ → Reply × κ) (call : StreamCall)
    (uncalled : ∀ calls callbacks, kept calls callbacks → kept' calls callbacks)
    (called : ∀ calls callbacks, kept calls callbacks → kept' (calls ++ [call]) callbacks) :
    Ensures (OnRecord (κ := κ) (ρ := ρ) kept) (invokeMethod (recordedAs (fun _ => call) method))
      (fun _ => OnRecord kept') thrown := by
  refine Ensures.bind Ensures.peek fun world => ?_
  refine Ensures.ite (fun _ => ?_) fun _ => Ensures.pure fun world => uncalled _ _
  exact fun world holds => called _ _ holds

/-- The methods that read something off the reply. -/
theorem reads_recorded {method : κ → Reply × κ} {call : StreamCall} (value : Reply → α)
    (uncalled : ∀ calls callbacks, kept calls callbacks → kept' calls callbacks)
    (called : ∀ calls callbacks, kept calls callbacks → kept' (calls ++ [call]) callbacks) :
    Ensures (OnRecord (κ := κ) (ρ := ρ) kept)
      (do return value (← invokeMethod (recordedAs (fun _ => call) method)))
      (fun _ => OnRecord kept') thrown :=
  Ensures.bind (invokeMethod_recorded method call uncalled called) fun _ =>
    Ensures.pure fun _ holds => holds

theorem callBack_recorded (calls : List CallbackCall) (action : EStateM Exception ρ α)
    (noted : ∀ made callbacks, kept made callbacks → kept' made (callbacks ++ calls)) :
    Ensures (OnRecord (κ := κ) (ρ := ρ) kept) (callBack (noting calls action))
      (fun _ => OnRecord kept')
      (fun exception world => Raises action exception ∧ OnRecord kept' world) := by
  intro world holds
  unfold callBack noting
  cases ended : action world.client.1 with
  | ok value after => exact noted _ _ holds
  | error exception after => exact ⟨⟨_, after, ended⟩, noted _ _ holds⟩

theorem observe_recorded : Ensures (OnRecord (κ := κ) (ρ := ρ) kept) observe
    (fun _ => OnRecord kept) thrown :=
  fun _ holds => holds

variable (client) in
theorem shouldCancel_recorded : Ensures (OnRecord (κ := κ) (ρ := ρ) kept)
    (shouldCancel client.recorded) (fun _ => OnRecord kept) (fun _ => OnRecord kept) := by
  refine Ensures.bind observe_recorded fun _ => ?_
  refine (callBack_recorded [] client.cancelRequested fun _ callbacks holds => ?_).raise
    fun _ _ raised => raised.2
  simpa using holds

theorem metaCallback_recorded (result : JVQueryResult)
    (noted : ∀ calls callbacks, kept calls callbacks →
      kept' calls (callbacks ++ [.metaCallback result])) :
    Ensures (OnRecord (κ := κ) (ρ := ρ) kept) (metaCallback client.recorded result)
      (fun _ => OnRecord kept')
      (fun exception world => Raises (client.metaCallback result) exception ∧
        OnRecord kept' world) :=
  Ensures.bind observe_recorded fun _ => callBack_recorded [.metaCallback result] _ noted

theorem recordCallback_recorded (record : Bytes)
    (noted : ∀ calls callbacks, kept calls callbacks →
      kept' calls (callbacks ++ [.recordCallback record])) :
    Ensures (OnRecord (κ := κ) (ρ := ρ) kept) (recordCallback client.recorded record)
      (fun _ => OnRecord kept')
      (fun exception world => Raises (client.recordCallback record) exception ∧
        OnRecord kept' world) :=
  Ensures.bind observe_recorded fun _ => callBack_recorded [.recordCallback record] _ noted

end RecordingRules

end JVLinkServer.Core
