import JVLinkServer.Core.StreamRules

namespace JVLinkServer.Core

open Effects

/-! # Rules for COM calls

A COM call changes the health of the wrapper and the worker.  The records of the
files and the code behind the callbacks it reaches only through the method it runs.
-/

section ComCallRules

variable {κ ρ α : Type} {jv : JVLink κ}

/-- A predicate that does not depend on the state of JV-Link. -/
def AnyEnv (kept : World κ ρ → Prop) : Prop := ∀ world env, kept world → kept { world with env }

section Methods

variable {kept : World κ ρ → Prop} (anyEnv : AnyEnv kept) {thrown : Exception → World κ ρ → Prop}
include anyEnv

theorem AnyEnv.ask (question : κ → α × κ) :
    Ensures kept (ask question : Action κ ρ α) (fun _ => kept) thrown :=
  fun world holds => anyEnv world _ holds

theorem AnyEnv.invokeMethod (method : κ → Reply × κ) :
    Ensures kept (invokeMethod method : Action κ ρ Reply) (fun _ => kept) thrown := by
  refine Ensures.bind Ensures.peek fun world => ?_
  exact Ensures.ite (fun _ => anyEnv.ask _) fun _ => Ensures.pure fun _ holds => holds

/-- The callables that read something off the reply of one method. -/
theorem AnyEnv.reads {method : κ → Reply × κ} (value : Reply → α) :
    Ensures kept (do return value (← Core.invokeMethod method) : Action κ ρ α) (fun _ => kept)
      thrown :=
  Ensures.bind (anyEnv.invokeMethod method) fun _ => Ensures.pure fun _ holds => holds

theorem AnyEnv.performJVClose : Ensures kept (performJVClose jv) (fun _ => kept) thrown := by
  refine Ensures.bind Ensures.peek fun world => ?_
  exact Ensures.ite (fun _ => Ensures.pure fun _ holds => holds) fun _ => anyEnv.reads _

theorem AnyEnv.performJVStatus : Ensures kept (performJVStatus jv) (fun _ => kept) thrown := by
  refine Ensures.bind Ensures.peek fun world => ?_
  exact Ensures.ite (fun _ => Ensures.pure fun _ holds => holds) fun _ => anyEnv.reads _

theorem AnyEnv.performJVOpen (dataspec fromtime : Bytes) (option : Int) :
    Ensures kept (performJVOpen jv dataspec fromtime option) (fun _ => kept) thrown := by
  refine Ensures.bind Ensures.peek fun world => ?_
  refine Ensures.ite (fun _ => Ensures.pure fun _ holds => holds) fun _ => ?_
  refine Ensures.bind (anyEnv.ask _) fun reply => ?_
  exact Ensures.ite (fun _ => Ensures.pure fun _ holds => holds) fun _ =>
    Ensures.pure fun _ holds => holds

end Methods

structure World.Alike (before after : World κ ρ) : Prop where
  files : after.files = before.files
  client : after.client = before.client

/-- A predicate on what COM calls leave alone. -/
def Beside (kept : World κ ρ → Prop) : Prop :=
  ∀ before after, before.Alike after → kept before → kept after

/-- The exceptions that `invokeComCall` makes itself. -/
def Exception.isFault : Exception → Bool
  | .jvLinkFatal _ | .other _ => true
  | _ => false

section Primitives

variable {kept : World κ ρ → Prop} (beside : Beside kept) {thrown : Exception → World κ ρ → Prop}
include beside

theorem Beside.anyEnv : AnyEnv kept :=
  fun world env holds => beside world { world with env } ⟨rfl, rfl⟩ holds

theorem Beside.observe : Ensures kept observe (fun _ => kept) thrown :=
  fun world holds => beside world _ ⟨rfl, rfl⟩ holds

end Primitives

/-! ## Waiting for a task -/

/-- A predicate that the bookkeeping of a call leaves alone. -/
structure Aside (jv : JVLink κ) (kept : World κ ρ → Prop) : Prop where
  now world : kept world → kept { world with env := (jv.now world.env).2 }
  taskFate taskName world : kept world →
    kept { world with env := (jv.taskFate taskName world.env).2 }
  health world wrapper worker observed timedOut : kept world →
    kept { world with wrapper, worker, observed, timedOut }

theorem Beside.aside {kept : World κ ρ → Prop} (beside : Beside kept) : Aside jv kept where
  now world holds := beside world _ ⟨rfl, rfl⟩ holds
  taskFate _ world holds := beside world _ ⟨rfl, rfl⟩ holds
  health world _ _ _ _ holds := beside world _ ⟨rfl, rfl⟩ holds

namespace Aside

variable {kept : World κ ρ → Prop} (aside : Aside jv kept) {thrown : Exception → World κ ρ → Prop}
include aside

theorem askNow : Ensures kept (ask jv.now) (fun _ => kept) thrown :=
  fun world holds => aside.now world holds

theorem askFate (taskName : String) :
    Ensures kept (ask (jv.taskFate taskName)) (fun _ => kept) thrown :=
  fun world holds => aside.taskFate taskName world holds

theorem setWrapper (change : JVLinkWrapper → JVLinkWrapper) :
    Ensures kept (setWrapper change) (fun _ => kept) thrown :=
  fun world holds => aside.health world (change world.wrapper) world.worker world.observed
    world.timedOut holds

theorem setWorker (change : ComThreadWorker → ComThreadWorker) :
    Ensures kept (setWorker change) (fun _ => kept) thrown :=
  fun world holds => aside.health world world.wrapper (change world.worker) world.observed
    world.timedOut holds

theorem observe : Ensures kept observe (fun _ => kept) thrown :=
  fun world holds => aside.health world world.wrapper world.worker
    (world.observed ++ [world.wrapper.getHealthSnapshot world.worker]) world.timedOut holds

theorem recordTimeout (taskName : String) :
    Ensures kept (recordTimeout taskName) (fun _ => kept) thrown :=
  fun world holds => aside.health world world.wrapper world.worker world.observed
    (world.timedOut ++ [taskName]) holds

end Aside

section Tasks

variable {pre failed : World κ ρ → Prop} {post : α → World κ ρ → Prop} {callable : Action κ ρ α}
  (before : Aside jv pre) (after : Aside jv failed)
  (early : ∀ world, pre world → failed world)
  (late : ∀ value world, post value world → failed world)
  (runs : Ensures pre callable post fun _ _ => False)
include before after early late runs

theorem invokeTask_rule (taskName : String) (timeout : Nat) :
    Ensures pre (invokeTask jv taskName timeout callable) post
      (fun exception world =>
        (exception.isFault = true ∨ exception = .comTaskTimeout taskName) ∧ failed world) := by
  have ran : Ensures pre callable post (fun exception world =>
      (exception.isFault = true ∨ exception = .comTaskTimeout taskName) ∧ failed world) :=
    runs.raise fun _ _ none => none.elim
  have gaveUp : Ensures failed (giveUpTask jv taskName) post (fun exception world =>
      (exception.isFault = true ∨ exception = .comTaskTimeout taskName) ∧ failed world) := by
    refine Ensures.bind after.askNow fun now => ?_
    refine Ensures.bind (after.setWorker _) fun _ => ?_
    refine Ensures.bind (after.recordTimeout _) fun _ => ?_
    exact Ensures.throw fun _ holds => ⟨.inr rfl, holds⟩
  refine Ensures.bind Ensures.peek fun world => ?_
  refine Ensures.ite (fun _ => Ensures.throw fun world holds => ⟨.inl rfl, early world holds⟩)
    fun _ => ?_
  refine Ensures.ite (fun _ => Ensures.throw fun world holds => ⟨.inl rfl, early world holds⟩)
    fun _ => ?_
  refine Ensures.ite (fun _ => Ensures.throw fun world holds => ⟨.inl rfl, early world holds⟩)
    fun _ => ?_
  refine Ensures.ite (fun _ => ran) fun _ => ?_
  refine Ensures.bind (before.askFate _) fun fate => ?_
  match fate with
  | .completes => exact ran
  | .timesOut false =>
      exact gaveUp.mono early (fun _ _ holds => holds) fun _ _ holds => holds
  | .timesOut true =>
      refine Ensures.bind (Ensures.attempt ?_) fun _ => gaveUp
      exact runs.mono (fun _ holds => holds) late fun _ _ none => none.elim

theorem runOnComThread_rule (operationName : String) (timeout : Nat) :
    Ensures pre (runOnComThread jv operationName timeout callable) post
      (fun exception world =>
        (exception.isFault = true ∨ exception = .comTaskTimeout operationName) ∧
          failed world) := by
  refine Ensures.bind Ensures.peek fun world => ?_
  refine Ensures.ite (fun _ => ?_) fun _ =>
    invokeTask_rule before after early late runs operationName timeout
  exact runs.raise fun _ _ none => none.elim

omit before early late runs in
theorem translateException_rule (operationName : String) (exception : Exception) :
    Ensures (fun world =>
        (exception.isFault = true ∨ exception = .comTaskTimeout operationName) ∧ failed world)
      (translateException jv operationName exception) post
      (fun exception world => exception.isFault = true ∧ failed world) := by
  rintro world ⟨fault | rfl, holds⟩
  · have rethrown : Ensures failed
        (do setWrapper (·.finishOperationTracking); observe; EStateM.throw exception) post
        (fun exception world => exception.isFault = true ∧ failed world) := by
      refine Ensures.bind (after.setWrapper _) fun _ => ?_
      exact Ensures.bind after.observe fun _ => Ensures.throw fun _ holds => ⟨fault, holds⟩
    cases exception with
    | jvLinkFatal message => exact rethrown world holds
    | other message => exact rethrown world holds
    | _ => cases fault
  · have translated : Ensures failed
        (translateException jv operationName (.comTaskTimeout operationName)) post
        (fun exception world => exception.isFault = true ∧ failed world) := by
      refine Ensures.bind after.askNow fun now => ?_
      refine Ensures.bind (after.setWrapper _) fun _ => ?_
      exact Ensures.bind after.observe fun _ => Ensures.throw fun _ holds => ⟨rfl, holds⟩
    exact translated world holds

theorem invokeComCall_rule (asides : ∀ value, Aside jv (post value)) (operationName : String)
    (timeout : TimeoutConfig → Nat) :
    Ensures pre (invokeComCall jv operationName timeout callable) post
      (fun exception world => exception.isFault = true ∧ failed world) := by
  refine Ensures.bind before.observe fun _ => ?_
  refine Ensures.bind Ensures.peek fun world => ?_
  refine Ensures.ite (fun _ => Ensures.throw fun world holds => ⟨rfl, early world holds⟩)
    fun _ => ?_
  refine Ensures.bind before.askNow fun now => ?_
  refine Ensures.bind (before.setWrapper _) fun _ => ?_
  refine Ensures.bind (Ensures.handle
    (runOnComThread_rule before after early late runs operationName _)
    (translateException_rule after operationName)) fun value => ?_
  refine Ensures.bind ((asides value).setWrapper _) fun _ => ?_
  exact Ensures.bind (asides value).observe fun _ => Ensures.pure fun _ holds => holds

end Tasks

section Quiet

variable {kept : World κ ρ → Prop} (beside : Beside kept)
include beside

/-- A call whose method is beside the point as well. -/
theorem Beside.invokeComCall {callable : Action κ ρ α}
    (runs : Ensures kept callable (fun _ => kept) fun _ _ => False) (operationName : String)
    (timeout : TimeoutConfig → Nat) :
    Ensures kept (invokeComCall jv operationName timeout callable) (fun _ => kept)
      (fun exception world => exception.isFault = true ∧ kept world) :=
  invokeComCall_rule beside.aside beside.aside (fun _ holds => holds) (fun _ _ holds => holds) runs
    (fun _ => beside.aside) operationName timeout

theorem Beside.closeSession :
    Ensures kept (closeSession jv) (fun _ => kept) (fun _ _ => False) := by
  refine Ensures.bind Ensures.peek fun world => ?_
  refine Ensures.bind (Ensures.attempt ?_) fun _ => beside.observe
  exact (runOnComThread_rule beside.aside beside.aside (fun _ holds => holds) (fun _ _ holds => holds)
    beside.anyEnv.performJVClose "jv_close" _).raise fun _ _ holds => holds.2

end Quiet

end ComCallRules

end JVLinkServer.Core
