import JVLinkServer.Core.ComCallRules
import JVLinkServer.Transition

namespace JVLinkServer.Core

open Effects Transition

/-! # Two fault flags

The worker records that a task timed out, and `invokeComCall` records it once more in
the wrapper, where the health snapshot looks.  The destructor of the session guard
waits for its task without the wrapper.
-/

/-- A snapshot that shows a faulted worker shows a faulted wrapper. -/
def JVLinkHealthSnapshot.Honest (snapshot : JVLinkHealthSnapshot) : Prop :=
  snapshot.worker.faulted = true → snapshot.operational = false ∧ snapshot.faulted = true

/-- The two flags agree, and they did whenever a snapshot was taken. -/
structure Paired (wrapper : JVLinkWrapper) (worker : ComThreadWorker)
    (observed : List JVLinkHealthSnapshot) : Prop where
  reported : worker.faulted = true → wrapper.faulted = true
  uninitialized : wrapper.faulted = true → wrapper.isInitialized = false
  honest : ∀ snapshot ∈ observed, snapshot.Honest

theorem Paired.now {wrapper : JVLinkWrapper} {worker : ComThreadWorker}
    {observed : List JVLinkHealthSnapshot} (paired : Paired wrapper worker observed) :
    (wrapper.getHealthSnapshot worker).Honest := by
  intro dead
  have faulted := paired.reported dead
  refine ⟨?_, faulted⟩
  simp [JVLinkWrapper.getHealthSnapshot, JVLinkWrapper.isOperational, faulted]

section Pair

variable {κ ρ α : Type} {jv : JVLink κ}

/-- The `JVClose` of a session guard timed out. -/
def World.CloseTimedOut (world : World κ ρ) : Prop := "jv_close" ∈ world.timedOut

instance (world : World κ ρ) : Decidable world.CloseTimedOut :=
  inferInstanceAs (Decidable ("jv_close" ∈ world.timedOut))

/-- Between COM calls. -/
def World.Steady (world : World κ ρ) : Prop :=
  ¬ world.CloseTimedOut → Paired world.wrapper world.worker world.observed

/-- Inside a COM call that has not timed out. -/
def World.Operable (world : World κ ρ) : Prop := world.Steady ∧ world.wrapper.faulted = false

/-- Inside one that has. -/
def World.Abandoned (taskName : String) (world : World κ ρ) : Prop :=
  taskName ∈ world.timedOut ∧
    (¬ world.CloseTimedOut → ∀ snapshot ∈ world.observed, snapshot.Honest)

/-- A predicate that a method of JV-Link leaves alone. -/
def AnyMethod (kept : World κ ρ → Prop) : Prop :=
  ∀ world env files, kept world → kept { world with env, files }

theorem steady_anyMethod : AnyMethod (World.Steady (κ := κ) (ρ := ρ)) := fun _ _ _ steady => steady

theorem operable_anyMethod : AnyMethod (World.Operable (κ := κ) (ρ := ρ)) :=
  fun _ _ _ operable => operable

theorem AnyMethod.anyEnv {kept : World κ ρ → Prop} (anyMethod : AnyMethod kept) : AnyEnv kept :=
  fun world env holds => anyMethod world env world.files holds

theorem AnyMethod.recordFile {kept : World κ ρ → Prop} (anyMethod : AnyMethod kept)
    {thrown : Exception → World κ ρ → Prop} (event : FileEvent) :
    Ensures kept (recordFile event) (fun _ => kept) thrown :=
  fun world holds => anyMethod world world.env _ holds

theorem observe_steady {thrown : Exception → World κ ρ → Prop} :
    Ensures World.Steady observe (fun _ => World.Steady) thrown := by
  refine Ensures.update fun world steady closed => ?_
  have paired := steady closed
  refine ⟨paired.reported, paired.uninitialized, fun snapshot member => ?_⟩
  rcases List.mem_append.mp member with earlier | last
  · exact paired.honest snapshot earlier
  · obtain rfl := List.mem_singleton.mp last
    intro faulted
    have marked := paired.reported faulted
    exact ⟨by simp [JVLinkWrapper.getHealthSnapshot, JVLinkWrapper.isOperational, marked], marked⟩

/-- Changes that leave the fault flag alone and initialise nothing. -/
theorem setWrapper_steady {change : JVLinkWrapper → JVLinkWrapper}
    {thrown : Exception → World κ ρ → Prop}
    (faulted : ∀ wrapper, (change wrapper).faulted = wrapper.faulted)
    (initialized : ∀ wrapper, (change wrapper).isInitialized = true → wrapper.isInitialized = true) :
    Ensures World.Steady (setWrapper change) (fun _ => World.Steady) thrown := by
  refine Ensures.update fun world steady closed => ?_
  have paired := steady closed
  refine ⟨fun dead => ?_, fun marked => ?_, paired.honest⟩
  · exact (faulted _).trans (paired.reported dead)
  · rw [faulted] at marked
    have before := paired.uninitialized marked
    cases after : (change world.wrapper).isInitialized with
    | false => rfl
    | true => simp [initialized _ after] at before

theorem setWrapper_operable {change : JVLinkWrapper → JVLinkWrapper}
    {thrown : Exception → World κ ρ → Prop}
    (faulted : ∀ wrapper, (change wrapper).faulted = wrapper.faulted)
    (initialized : ∀ wrapper, (change wrapper).isInitialized = true → wrapper.isInitialized = true) :
    Ensures World.Operable (setWrapper change) (fun _ => World.Operable) thrown := by
  rintro world ⟨steady, sound⟩
  have kept : Ensures World.Steady (setWrapper change) (fun _ => World.Steady) thrown :=
    setWrapper_steady faulted initialized
  exact ⟨kept world steady, (faulted _).trans sound⟩

theorem observe_operable {thrown : Exception → World κ ρ → Prop} :
    Ensures World.Operable observe (fun _ => World.Operable) thrown := by
  rintro world ⟨steady, sound⟩
  have kept : Ensures World.Steady observe (fun _ => World.Steady) thrown := observe_steady
  exact ⟨kept world steady, sound⟩

/-! ## Waiting for a task -/

theorem giveUpTask_abandons (taskName : String) {post : α → World κ ρ → Prop} :
    Ensures World.Steady (giveUpTask jv taskName) post
      (fun exception world => exception = .comTaskTimeout taskName ∧ world.Abandoned taskName) := by
  refine Ensures.bind (steady_anyMethod.anyEnv.ask _) fun now => ?_
  have faulted : Ensures World.Steady
      (setWorker (·.recordFault ("COM task timed out: " ++ taskName) now))
      (fun _ world => ¬ world.CloseTimedOut → ∀ snapshot ∈ world.observed, snapshot.Honest)
      (fun exception world => exception = .comTaskTimeout taskName ∧
        World.Abandoned (κ := κ) (ρ := ρ) taskName world) :=
    Ensures.update fun world steady closed => (steady closed).honest
  refine Ensures.bind faulted fun _ => ?_
  refine Ensures.seq (fun _ => World.Abandoned taskName) (Ensures.update ?_) fun _ =>
    Ensures.throw fun _ abandoned => ⟨rfl, abandoned⟩
  intro world honest
  refine ⟨List.mem_append_right _ (by simp), fun closed => honest fun before => closed ?_⟩
  exact List.mem_append_left _ before

/-- How the wait for a task fails. -/
def World.Failed (taskName : String) (exception : Exception) (world : World κ ρ) : Prop :=
  exception.isFault = true ∧ world.Steady ∨
    exception = .comTaskTimeout taskName ∧ world.Abandoned taskName

section Tasks

variable {kept : World κ ρ → Prop} (anyMethod : AnyMethod kept)
  (steady : ∀ world, kept world → world.Steady) {callable : Action κ ρ α}
  (runs : Ensures kept callable (fun _ => kept) fun _ _ => False)
include anyMethod steady runs

theorem invokeTask_fails (taskName : String) (timeout : Nat) :
    Ensures kept (invokeTask jv taskName timeout callable) (fun _ => kept)
      (World.Failed taskName) := by
  have refused {message : String} : Ensures kept
      (EStateM.throw (.other message) : Action κ ρ α) (fun _ => kept) (World.Failed taskName) :=
    Ensures.throw fun world holds => .inl ⟨rfl, steady world holds⟩
  have gaveUp : Ensures kept (giveUpTask jv taskName : Action κ ρ α) (fun _ => kept)
      (World.Failed taskName) :=
    (giveUpTask_abandons taskName).mono steady (fun _ _ holds => holds) fun _ _ => .inr
  refine Ensures.bind Ensures.peek fun world => ?_
  refine Ensures.ite (fun _ => refused) fun _ => ?_
  refine Ensures.ite (fun _ => refused) fun _ => ?_
  refine Ensures.ite (fun _ => refused) fun _ => ?_
  refine Ensures.ite (fun _ => runs.raise fun _ _ none => none.elim) fun _ => ?_
  refine Ensures.bind (anyMethod.anyEnv.ask _) fun fate => ?_
  match fate with
  | .completes => exact runs.raise fun _ _ none => none.elim
  | .timesOut false => exact gaveUp
  | .timesOut true =>
      have ran : Ensures kept (attempt callable) (fun _ => kept) (World.Failed taskName) :=
        Ensures.attempt (runs.raise fun _ _ none => none.elim)
      exact Ensures.bind ran fun _ => gaveUp

theorem runOnComThread_fails (taskName : String) (timeout : Nat) :
    Ensures kept (runOnComThread jv taskName timeout callable) (fun _ => kept)
      (World.Failed taskName) := by
  refine Ensures.bind Ensures.peek fun world => ?_
  exact Ensures.ite (fun _ => runs.raise fun _ _ none => none.elim) fun _ =>
    invokeTask_fails anyMethod steady runs taskName timeout

end Tasks

/-- Where the second flag is set. -/
theorem translateException_steady (operationName : String) (exception : Exception)
    {post : α → World κ ρ → Prop} :
    Ensures (World.Failed operationName exception) (translateException jv operationName exception)
      post (fun _ => World.Steady) := by
  rintro world (⟨fault, steady⟩ | ⟨rfl, abandoned⟩)
  · have rethrown : Ensures World.Steady
        (do setWrapper (·.finishOperationTracking); observe; EStateM.throw exception) post
        (fun _ => World.Steady) := by
      refine Ensures.bind (setWrapper_steady (fun _ => rfl) fun _ same => same) fun _ => ?_
      exact Ensures.bind observe_steady fun _ => Ensures.throw fun _ steady => steady
    cases exception with
    | jvLinkFatal message => exact rethrown world steady
    | other message => exact rethrown world steady
    | _ => cases fault
  · have translated : Ensures (World.Abandoned operationName)
        (translateException jv operationName (.comTaskTimeout operationName)) post
        (fun _ => World.Steady) := by
      refine Ensures.seq (fun _ => World.Abandoned operationName) ?_ fun now => ?_
      · exact fun world abandoned => abandoned
      refine Ensures.seq (fun _ => World.Steady) (Ensures.update ?_) fun _ => ?_
      · exact fun world abandoned closed => ⟨fun _ => rfl, fun _ => rfl, abandoned.2 closed⟩
      exact Ensures.bind observe_steady fun _ => Ensures.throw fun _ steady => steady
    exact translated world abandoned

/-- A call that returns has found the wrapper sound and left it so. -/
theorem invokeComCall_steady {callable : Action κ ρ α}
    (runs : Ensures World.Operable callable (fun _ => World.Operable) fun _ _ => False)
    (operationName : String) (timeout : TimeoutConfig → Nat) :
    Ensures World.Steady (invokeComCall jv operationName timeout callable)
      (fun _ => World.Operable) (fun _ => World.Steady) := by
  refine Ensures.bind observe_steady fun _ => ?_
  refine Ensures.bind Ensures.read fun world => ?_
  refine Ensures.ite (fun _ => Ensures.throw fun _ steady => steady.2) fun sound => ?_
  refine Ensures.seq (fun _ => World.Operable) ?_ fun now => ?_
  · rintro _ ⟨rfl, steady⟩
    exact ⟨steady, by simpa using sound⟩
  refine Ensures.bind (setWrapper_operable (fun _ => rfl) fun _ same => same) fun _ => ?_
  refine Ensures.bind (Ensures.handle
    (runOnComThread_fails operable_anyMethod (fun _ => And.left) runs operationName _)
    fun exception => translateException_steady operationName exception) fun value => ?_
  refine Ensures.bind (setWrapper_operable (fun _ => rfl) fun _ same => same) fun _ => ?_
  exact Ensures.bind observe_operable fun _ => Ensures.pure fun _ operable => operable

theorem invokeComCall_keeps {callable : Action κ ρ α}
    (runs : Ensures World.Operable callable (fun _ => World.Operable) fun _ _ => False)
    (operationName : String) (timeout : TimeoutConfig → Nat) :
    Keeps World.Steady (invokeComCall jv operationName timeout callable) :=
  (invokeComCall_steady runs operationName timeout).mono (fun _ steady => steady)
    (fun _ _ operable => operable.1) fun _ _ steady => steady

/-- A task of the guard that times out is the one thing that goes unreported. -/
theorem closeSession_steady : Keeps World.Steady (closeSession jv : Action κ ρ Unit) := by
  refine Ensures.bind Ensures.peek fun world => ?_
  refine Ensures.bind (Ensures.attempt ?_) fun _ => observe_steady
  refine (runOnComThread_fails steady_anyMethod (fun _ steady => steady)
    steady_anyMethod.anyEnv.performJVClose "jv_close" _).raise ?_
  rintro exception world (⟨-, steady⟩ | ⟨-, closed, -⟩)
  · exact steady
  · exact fun notClosed => absurd closed notClosed

/-! ## The operations -/

/-- The callable reaches the wrapper only through the methods of JV-Link. -/
def OnlyMethods (callable : Action κ ρ α) : Prop :=
  ∀ kept, AnyMethod kept → Ensures kept callable (fun _ => kept) fun _ _ => False

theorem onlyMethods_reads {method : κ → Reply × κ} (value : Reply → α) :
    OnlyMethods (do return value (← invokeMethod method) : Action κ ρ α) :=
  fun _ anyMethod => anyMethod.anyEnv.reads value

theorem performJVFiledelete_onlyMethods (filename : Bytes) :
    OnlyMethods (performJVFiledelete jv filename : Action κ ρ Int) := by
  intro kept anyMethod
  exact Ensures.bind (anyMethod.recordFile _) fun _ => anyMethod.anyEnv.reads _

theorem jvGets_onlyMethods (attemptsLeft : Nat) (buffer : Option Bytes) (filename : Bytes) :
    OnlyMethods (jvGets jv attemptsLeft buffer filename : Action κ ρ GetsResult) := by
  intro kept anyMethod
  refine Ensures.bind Ensures.peek fun world => ?_
  refine Ensures.ite (fun _ => Ensures.pure fun _ holds => holds) fun _ => ?_
  refine Ensures.bind (anyMethod.anyEnv.ask _) fun reply => ?_
  exact Ensures.bind (anyMethod.recordFile _) fun _ => Ensures.pure fun _ holds => holds

theorem jvGetsAttempts_onlyMethods (attemptsLeft : Nat) (filename : Bytes) :
    OnlyMethods (jvGetsAttempts jv attemptsLeft filename : Action κ ρ GetsResult) := by
  intro kept anyMethod
  induction attemptsLeft generalizing filename with
  | zero => exact jvGets_onlyMethods 0 none filename kept anyMethod
  | succ attemptsLeft ih =>
      refine Ensures.bind (jvGets_onlyMethods _ none filename kept anyMethod) fun result => ?_
      refine Ensures.ite (fun _ => ?_) fun _ => Ensures.pure fun _ holds => holds
      exact Ensures.bind (performJVFiledelete_onlyMethods _ kept anyMethod) fun _ => ih _

theorem OnlyMethods.invokeComCall {callable : Action κ ρ α} (only : OnlyMethods callable)
    (operationName : String) (timeout : TimeoutConfig → Nat) :
    Keeps World.Steady (invokeComCall jv operationName timeout callable) :=
  invokeComCall_keeps (only _ operable_anyMethod) operationName timeout

theorem createJVLinkInstance_operable :
    Ensures World.Operable (createJVLinkInstance jv : Action κ ρ Bool) (fun _ => World.Operable)
      fun _ _ => False := by
  refine Ensures.bind (operable_anyMethod.anyEnv.ask _) fun created => ?_
  refine Ensures.bind (setWrapper_operable (fun _ => rfl) fun _ same => same) fun _ => ?_
  exact Ensures.pure fun _ operable => operable

theorem shutdownOnComThread_operable :
    Ensures World.Operable (shutdownOnComThread : Action κ ρ Bool) (fun _ => World.Operable)
      fun _ _ => False := by
  refine Ensures.bind (setWrapper_operable (fun _ => rfl) fun _ never => ?_) fun _ => ?_
  · cases never
  · exact Ensures.pure fun _ operable => operable

theorem connectEventSink_keeps {kept : World κ ρ → Prop} (anyMethod : AnyMethod kept)
    {thrown : Exception → World κ ρ → Prop}
    (connects : ∀ connected, Ensures kept
      (setWrapper fun wrapper => { wrapper with connectionPoint := connected }) (fun _ => kept)
      thrown) :
    Ensures kept (connectEventSink jv) (fun _ => kept) thrown := by
  refine Ensures.bind Ensures.peek fun world => ?_
  refine Ensures.ite (fun _ => Ensures.pure fun _ holds => holds) fun _ => ?_
  refine Ensures.ite (fun _ => Ensures.pure fun _ holds => holds) fun _ => ?_
  refine Ensures.ite (fun _ => Ensures.pure fun _ holds => holds) fun _ => ?_
  refine Ensures.bind (anyMethod.anyEnv.ask _) fun connected => ?_
  exact Ensures.bind (connects connected) fun _ => Ensures.pure fun _ holds => holds

/-- The reset of the fault flag is safe when there is no fault to forget. -/
theorem initializeWrapper_steady (sid : Bytes) :
    Ensures (fun world : World κ ρ => world.Steady ∧ world.worker.faulted = false)
      (initializeWrapper jv sid) (fun _ => World.Steady) (fun _ => World.Steady) := by
  refine Ensures.bind Ensures.peek fun world => ?_
  refine Ensures.ite (fun _ => Ensures.pure fun _ fresh => fresh.1) fun _ => ?_
  refine Ensures.seq (fun _ => World.Steady) (Ensures.update ?_) fun _ => ?_
  · rintro world ⟨steady, alive⟩ closed
    exact ⟨fun dead => by simp [alive] at dead, fun marked => (Bool.false_ne_true marked).elim,
      (steady closed).honest⟩
  refine Ensures.bind (invokeComCall_steady createJVLinkInstance_operable _ _) fun created => ?_
  refine Ensures.ite (fun _ => Ensures.pure fun _ operable => operable.1) fun _ => ?_
  refine Ensures.seq (fun _ => World.Steady) ?_ fun initResult => ?_
  · exact ((onlyMethods_reads _).invokeComCall _ _).mono (fun _ operable => operable.1)
      (fun _ _ steady => steady) fun _ _ steady => steady
  refine Ensures.ite (fun _ => ?_) fun _ => ?_
  · refine Ensures.bind (Ensures.attempt (invokeComCall_keeps shutdownOnComThread_operable _ _))
      fun _ => Ensures.pure fun _ steady => steady
  have closes : Ensures World.Steady
      (succeeds (invokeComCall jv "initial_jvclose" (·.controlTimeout) (performJVClose jv)))
      (fun (closed : Bool) world => world.Steady ∧ (closed = true → world.Operable))
      (fun _ => World.Steady (κ := κ) (ρ := ρ)) := by
    refine Ensures.handle (Ensures.bind (invokeComCall_steady
      operable_anyMethod.anyEnv.performJVClose _ _) fun _ => Ensures.pure fun _ operable =>
        ⟨operable.1, fun _ => operable⟩) fun _ => ?_
    exact Ensures.pure fun _ steady => ⟨steady, fun never => by cases never⟩
  refine Ensures.bind closes fun closed => ?_
  refine Ensures.ite (fun _ => Ensures.pure fun _ steady => steady.1) fun succeeded => ?_
  refine Ensures.seq (fun _ => World.Steady) (Ensures.update ?_) fun _ => ?_
  · rintro world ⟨steady, operable⟩ notTimedOut
    have sound := (operable (by simpa using succeeded)).2
    exact ⟨(steady notTimedOut).reported, fun marked => by simp [sound] at marked,
      (steady notTimedOut).honest⟩
  refine Ensures.bind Ensures.peek fun world => ?_
  refine Ensures.ite (fun _ => ?_) fun _ => Ensures.pure fun _ steady => steady
  have connects : Ensures World.Operable (connectEventSink jv : Action κ ρ Bool)
      (fun _ => World.Operable) (fun _ _ => False) :=
    connectEventSink_keeps operable_anyMethod fun connected =>
      setWrapper_operable (fun _ => rfl) fun _ same => same
  exact Ensures.bind (invokeComCall_keeps connects _ _) fun _ => Ensures.pure fun _ steady => steady

theorem shutdown_steady : Keeps World.Steady (shutdown jv : Action κ ρ Unit) := by
  refine Ensures.bind Ensures.peek fun world => ?_
  refine Ensures.ite (fun _ => ?_) fun _ => ?_
  · exact setWrapper_steady (fun _ => rfl) fun _ never => by cases never
  refine Ensures.ite (fun _ => ?_) fun _ => ?_
  · exact setWrapper_steady (fun _ => rfl) fun _ never => by cases never
  · exact Ensures.bind (invokeComCall_keeps shutdownOnComThread_operable _ _) fun _ =>
      Ensures.pure fun _ steady => steady

theorem callBack_steady (action : EStateM Exception ρ α) :
    Keeps (World.Steady (κ := κ)) (callBack action) := by
  intro world steady
  unfold callBack
  split <;> exact steady

variable {client : StreamClient ρ} {query : StoredQuery}

theorem shouldCancel_steady : Keeps (World.Steady (κ := κ)) (shouldCancel client) :=
  Keeps.bind observe_steady fun _ => callBack_steady _

theorem throwIfCanceled_steady (message : String) :
    Keeps (World.Steady (κ := κ)) (throwIfCanceled client message) := by
  refine Keeps.bind shouldCancel_steady fun canceled => ?_
  exact Keeps.ite (Keeps.throw _) (Keeps.pure _)

theorem metaCallback_steady (result : JVQueryResult) :
    Keeps (World.Steady (κ := κ)) (metaCallback client result) :=
  Keeps.bind observe_steady fun _ => callBack_steady _

theorem recordCallback_steady (record : Bytes) :
    Keeps (World.Steady (κ := κ)) (recordCallback client record) :=
  Keeps.bind observe_steady fun _ => callBack_steady _

theorem health_rules :
    StreamRules jv client query (fun _ => World.Steady) World.Steady World.Steady
      (fun _ => World.Steady) (fun _ => World.Steady) where
  opens := invokeComCall_keeps (operable_anyMethod.anyEnv.performJVOpen _ _ _) _ _
  status := invokeComCall_keeps operable_anyMethod.anyEnv.performJVStatus _ _
  abandons := Ensures.attempt ((onlyMethods_reads _).invokeComCall _ _)
  gets filename := by
    refine invokeComCall_keeps (Ensures.bind Ensures.peek fun world => ?_) _ _
    exact jvGetsAttempts_onlyMethods _ filename _ operable_anyMethod
  skips _ := (onlyMethods_reads _).invokeComCall _ _
  polls _ := by
    refine shouldCancel_steady.mono (fun _ steady => steady) (fun answer _ steady => ?_)
      fun _ _ steady => steady
    cases answer <;> exact steady
  pollsAgain := shouldCancel_steady.mono (fun _ steady => steady)
    (fun answer _ steady => by cases answer <;> exact steady) fun _ _ steady => steady
  describes result _ := metaCallback_steady result
  fails result _ _ := (metaCallback_steady result).mono (fun _ either => either.elim id id)
    (fun _ _ steady => steady) fun _ _ steady => steady
  records _ record := recordCallback_steady record
  cancels _ _ steady := steady
  breaks _ _ _ _ steady := steady
  goesOn _ _ steady := steady
  completes _ _ _ _ steady := steady

/-- The guard closes the session on every way out. -/
theorem withSessionGuard_steady {body : Action κ ρ α} (runs : Keeps World.Steady body) :
    Keeps World.Steady (withSessionGuard jv body) := by
  have closes (world : World κ ρ) (steady : world.Steady) :
      (finalState (closeSession jv world)).Steady := (closeSession_steady world steady).finalState
  refine Ensures.afterwards runs (fun _ => closes) fun exception world steady => ?_
  split
  · exact closes world steady
  · exact steady

theorem queryStored_steady (fuel : Nat) :
    Keeps World.Steady (queryStored jv client query fuel) := by
  refine Keeps.bind Ensures.peek fun world => ?_
  refine Keeps.ite ?_ (withSessionGuard_steady (health_rules.openAndStream fuel))
  exact Keeps.bind (metaCallback_steady _) fun _ => Keeps.pure _

theorem readRealtimeOnce_steady (progress : ReadProgress) :
    Keeps World.Steady (readRealtimeOnce jv client progress) := by
  refine Keeps.bind (throwIfCanceled_steady _) fun _ => ?_
  refine Keeps.bind ((jvGets_onlyMethods _ _ _).invokeComCall _ _) fun result => ?_
  refine Keeps.bind (throwIfCanceled_steady _) fun _ => ?_
  refine Keeps.ite ?_ (Keeps.ite (Keeps.pure _) (Keeps.ite (Keeps.pure _) (Keeps.throw _)))
  refine Keeps.bind (recordCallback_steady _) fun _ => ?_
  exact Keeps.bind (throwIfCanceled_steady _) fun _ => Keeps.pure _

theorem readRealtimeLoop_steady (fuel : Nat) (progress : ReadProgress) :
    Keeps World.Steady (readRealtimeLoop jv client fuel progress) := by
  induction fuel generalizing progress with
  | zero => exact Keeps.throw _
  | succ fuel ih =>
      refine Keeps.bind (readRealtimeOnce_steady progress) fun next => ?_
      cases next with
      | some next => exact ih next
      | none => exact Keeps.pure _

/-- An operation that goes past `invokeComCall` when there is no COM thread. -/
theorem onComThread_steady {callable : Action κ ρ α} (only : OnlyMethods callable)
    (operationName : String) (timeout : TimeoutConfig → Nat) :
    Keeps World.Steady (do
      if !(← read).worker.running then callable
      else invokeComCall jv operationName timeout callable) := by
  refine Keeps.bind Ensures.peek fun world => ?_
  refine Keeps.ite ?_ (only.invokeComCall _ _)
  exact (only _ steady_anyMethod).raise fun _ _ none => none.elim

theorem queryRealtime_steady (dataspec key : Bytes) (fuel : Nat) :
    Keeps World.Steady (queryRealtime jv client dataspec key fuel) := by
  refine Keeps.bind Ensures.peek fun world => ?_
  refine Keeps.ite ?_ (withSessionGuard_steady ?_)
  · exact Keeps.bind (metaCallback_steady _) fun _ => Keeps.pure _
  refine Keeps.bind (onComThread_steady (onlyMethods_reads _) _ _) fun openResult => ?_
  refine Keeps.bind (throwIfCanceled_steady _) fun _ => ?_
  refine Keeps.ite (Keeps.bind (metaCallback_steady _) fun _ => Keeps.pure _) ?_
  refine Keeps.ite (Keeps.bind (metaCallback_steady _) fun _ => Keeps.pure _) ?_
  refine Keeps.bind (throwIfCanceled_steady _) fun _ => ?_
  exact Keeps.bind (metaCallback_steady _) fun _ => readRealtimeLoop_steady _ _

theorem checkedCommand_steady {argument? : Option Int} {command : Action κ ρ Int}
    (runs : Keeps World.Steady command) :
    Keeps World.Steady (checkedCommand argument? command) := by
  refine Keeps.bind Ensures.peek fun world => ?_
  refine Keeps.ite (Keeps.pure _) ?_
  cases argument? with
  | some code => exact Keeps.pure _
  | none => exact runs

theorem watch_steady {method : Action κ ρ Int} (only : OnlyMethods method) (name : String)
    (active : Bool) :
    Keeps World.Steady (do
      if !(← read).wrapper.dispatch then return false
      let returnCode ← invokeComCall jv name (·.controlTimeout) method
      if returnCode = 0 then
        setWrapper fun wrapper => { wrapper with eventWatchActive := active }
        return true
      else return false) := by
  refine Keeps.bind Ensures.peek fun world => ?_
  refine Keeps.ite (Keeps.pure _) ?_
  refine Keeps.bind (only.invokeComCall _ _) fun returnCode => ?_
  refine Keeps.ite ?_ (Keeps.pure _)
  exact Keeps.bind (setWrapper_steady (fun _ => rfl) fun _ same => same) fun _ => Keeps.pure _

theorem setEventHandler_steady (handler : Bool) :
    Keeps World.Steady (setEventHandler jv handler : Action κ ρ Unit) := by
  refine Keeps.bind (setWrapper_steady (fun _ => rfl) fun _ same => same) fun _ => ?_
  refine Keeps.bind Ensures.peek fun world => ?_
  refine Keeps.ite (Keeps.ite ?_ ?_) (Keeps.pure _)
  · refine Keeps.bind (connectEventSink_keeps steady_anyMethod fun connected => ?_) fun _ =>
      Keeps.pure _
    exact setWrapper_steady (fun _ => rfl) fun _ same => same
  · refine Keeps.bind (Keeps.bind ?_ fun _ => Keeps.pure _) fun _ => Keeps.pure _
    exact setWrapper_steady (fun _ => rfl) fun _ same => same

end Pair

/-! ## Sequences of calls -/

/-- A call on the wrapper by its owner.  `comThreadEnds` is no call: the thread has
received a quit message. -/
inductive Call (ρ : Type)
  | initializeWrapper (sid : Bytes)
  | shutdown
  | setRetryConfig (config : RetryConfig)
  | setTimeoutConfig (config : TimeoutConfig)
  | setEventHandler (handler : Bool)
  | queryStored (client : StreamClient ρ) (query : StoredQuery) (fuel : Nat)
  | queryRealtime (client : StreamClient ρ) (dataspec key : Bytes) (fuel : Nat)
  | skipCurrentFile
  | startEventWatch
  | stopEventWatch
  | deleteFile (filename : Bytes)
  | fukuFile (pattern filepath : Bytes)
  | fuku (pattern : Bytes)
  | courseFile (key : Bytes)
  | courseFile2 (key filepath : Bytes)
  | comThreadEnds

section Calls

variable {κ ρ : Type} (jv : JVLink κ)

def perform : Call ρ → Action κ ρ Unit
  | .initializeWrapper sid => attempt (initializeWrapper jv sid)
  | .shutdown => attempt (shutdown jv)
  | .setRetryConfig config => setWrapper fun wrapper => { wrapper with retryConfig := config }
  | .setTimeoutConfig config => setWrapper fun wrapper => { wrapper with timeoutConfig := config }
  | .setEventHandler handler => attempt (setEventHandler jv handler)
  | .queryStored client query fuel => attempt (queryStored jv client query fuel)
  | .queryRealtime client dataspec key fuel => attempt (queryRealtime jv client dataspec key fuel)
  | .skipCurrentFile => attempt (skipCurrentFile jv)
  | .startEventWatch => attempt (startEventWatch jv)
  | .stopEventWatch => attempt (stopEventWatch jv)
  | .deleteFile filename => attempt (deleteFile jv filename)
  | .fukuFile pattern filepath => attempt (fukuFile jv pattern filepath)
  | .fuku pattern => attempt (fuku jv pattern)
  | .courseFile key => attempt (courseFile jv key)
  | .courseFile2 key filepath => attempt (courseFile2 jv key filepath)
  | .comThreadEnds => setWorker fun worker => { worker with running := false }

/-- Also after a call that throws, or that runs on beyond its fuel. -/
def World.after (world : World κ ρ) (call : Call ρ) : World κ ρ :=
  finalState ((do perform jv call; observe) world)

def callStep (world : World κ ρ) (call : Call ρ) : Option (World κ ρ) := some (world.after jv call)

/-- A new wrapper, whose COM thread has started. -/
def World.initial (env : κ) (client : ρ) : World κ ρ where
  wrapper := {}
  worker := ComThreadWorker.start {}
  env
  client

/-- No session guard's `JVClose` times out, and a wrapper whose COM thread has failed
is not initialised again. -/
structure KeepsFlagsTogether (world : World κ ρ) (call : Call ρ) : Prop where
  closes : ¬ (world.after jv call).CloseTimedOut
  fresh sid : call = .initializeWrapper sid → world.worker.faulted = false

end Calls

section Runs

variable {κ ρ : Type} {jv : JVLink κ}

theorem World.initial_steady (env : κ) (client : ρ) : (World.initial env client).Steady := by
  intro _
  exact ⟨Bool.noConfusion, Bool.noConfusion, by simp [World.initial]⟩

theorem perform_steady {call : Call ρ} (other : ∀ sid, call ≠ .initializeWrapper sid) :
    Keeps (World.Steady (κ := κ)) (perform jv call) := by
  have command {callable : Action κ ρ Int} {argument? : Option Int} {name : String}
      (only : OnlyMethods callable) :
      Keeps World.Steady (attempt (checkedCommand argument? (invokeCommand jv name callable))) :=
    Ensures.attempt (checkedCommand_steady (onComThread_steady only _ _))
  cases call with
  | initializeWrapper sid => exact absurd rfl (other sid)
  | shutdown => exact Ensures.attempt shutdown_steady
  | setRetryConfig config =>
      unfold perform
      exact setWrapper_steady (fun _ => rfl) fun _ same => same
  | setTimeoutConfig config =>
      unfold perform
      exact setWrapper_steady (fun _ => rfl) fun _ same => same
  | setEventHandler handler => exact Ensures.attempt (setEventHandler_steady handler)
  | queryStored client query fuel => exact Ensures.attempt (queryStored_steady fuel)
  | queryRealtime client dataspec key fuel =>
      exact Ensures.attempt (queryRealtime_steady dataspec key fuel)
  | skipCurrentFile => exact command (onlyMethods_reads _)
  | startEventWatch => exact Ensures.attempt (watch_steady (onlyMethods_reads _) _ _)
  | stopEventWatch => exact Ensures.attempt (watch_steady (onlyMethods_reads _) _ _)
  | deleteFile filename => exact command (performJVFiledelete_onlyMethods _)
  | fukuFile pattern filepath => exact command (onlyMethods_reads _)
  | fuku pattern => exact command (onlyMethods_reads _)
  | courseFile key => exact command (onlyMethods_reads _)
  | courseFile2 key filepath => exact command (onlyMethods_reads _)
  | comThreadEnds =>
      refine Ensures.update fun world steady closed => ?_
      have paired := steady closed
      exact ⟨paired.reported, paired.uninitialized, paired.honest⟩

/-- One call. -/
theorem World.Steady.after {world : World κ ρ} {call : Call ρ} (steady : world.Steady)
    (fresh : ∀ sid, call = .initializeWrapper sid → world.worker.faulted = false) :
    (world.after jv call).Steady := by
  have ends : Ensures (fun before => before = world) (do perform jv call; observe)
      (fun _ => World.Steady) (fun _ => World.Steady) := by
    refine Ensures.seq (fun _ => World.Steady) ?_ fun _ => observe_steady
    rintro _ rfl
    cases call with
    | initializeWrapper sid =>
        exact Ensures.attempt (initializeWrapper_steady sid) _ ⟨steady, fresh sid rfl⟩
    | _ => exact perform_steady (by simp) _ steady
  exact (ends world rfl).finalState

/-- Every sequence of calls. -/
theorem run_steady {env : κ} {client : ρ} {calls : List (Call ρ)} {world : World κ ρ}
    (along : Along (callStep jv) (KeepsFlagsTogether jv) (.initial env client) calls)
    (ran : run (callStep jv) (.initial env client) calls = some world) :
    Paired world.wrapper world.worker world.observed := by
  refine run_preserves_along (fun world : World κ ρ => world.Steady ∧ ¬ world.CloseTimedOut)
    ?_ ⟨World.initial_steady env client, by simp [World.CloseTimedOut, World.initial]⟩ along ran
    |> fun kept => kept.1 kept.2
  rintro world call next ⟨steady, -⟩ allowed taken
  cases taken
  exact ⟨steady.after allowed.fresh, allowed.closes⟩

end Runs

end JVLinkServer.Core
