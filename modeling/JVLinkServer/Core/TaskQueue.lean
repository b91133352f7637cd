import JVLinkServer.Core.ComThreadWorker
import JVLinkServer.Transition

namespace JVLinkServer.Core

open Transition

/-! # The task queue of the COM thread

Callers of `postTask`, callers of `stop`, timeouts and the thread itself, one access to
shared state at a time.  A task is named by the call that posts it.
-/

/-- A call of `postTask`.  Its test reads three flags, of which `passed` have let it pass;
it makes the test once without the mutex and once under it. -/
inductive PostPhase
  | absent
  | testing (passed : Nat)
  | acquiring
  | retesting (passed : Nat)
  | pushing
  | unlocking
  | returned (accepted : Bool)
  deriving DecidableEq, Repr

/-- A call of `recordFault`, by the store that comes next. -/
inductive FaultPhase
  | absent
  | faulting
  | withdrawing
  | returned
  deriving DecidableEq, Repr

/-- A call of `stop`. -/
inductive StopPhase
  | absent
  | withdrawing
  | posting
  | joining
  | clearing
  | returned
  deriving DecidableEq, Repr

/-- The thread, in `threadFunc` and below.  `last` marks the tasks that are executed after
`WM_QUIT`. -/
inductive ThreadPhase
  | looping
  | swapping (last : Bool)
  | executing (tasks : List Nat) (last : Bool)
  | peeking
  | quitting
  | waiting
  | left
  deriving DecidableEq, Repr

/-- What `PeekMessage` finds. -/
inductive PeekedMessage
  | nothing
  | other
  | quit
  deriving DecidableEq, Repr

/-- `accepted` and `ran` list the tasks that were pushed and executed; the program does not
keep them.  The thread runs and the worker accepts tasks from the start. -/
structure TaskState where
  worker : ComThreadWorker := { running := true, acceptingTasks := true }
  taskQueue : List Nat := []
  taskMutex : Option Nat := none
  quitPosted : Bool := false
  joinable : Bool := true
  thread : ThreadPhase := .looping
  posts : Nat → PostPhase := fun _ => .absent
  faults : Nat → FaultPhase := fun _ => .absent
  stops : Nat → StopPhase := fun _ => .absent
  accepted : List Nat := []
  ran : List Nat := []

inductive TaskAction
  | post (call : Nat)
  | fault (call : Nat) (message : String) (now : Int)
  | stop (call : Nat)
  | thread (peeked : PeekedMessage)
  deriving DecidableEq, Repr

/-- The flag that the test reads when `passed` others have let the call pass. -/
def ComThreadWorker.lets (worker : ComThreadWorker) (passed : Nat) : Bool :=
  match passed with
  | 0 => worker.running
  | 1 => worker.acceptingTasks
  | _ => !worker.faulted

/-- The three reads are the test. -/
theorem ComThreadWorker.accepts_iff_lets {worker : ComThreadWorker} :
    worker.accepts = true ↔ ∀ passed < 3, worker.lets passed = true := by
  constructor
  · intro accepts passed below
    simp only [ComThreadWorker.accepts, Bool.and_eq_true] at accepts
    match passed with
    | 0 => exact accepts.1.1
    | 1 => exact accepts.1.2
    | 2 => exact accepts.2
  · intro lets
    have running := lets 0 (by decide)
    have accepting := lets 1 (by decide)
    have faulted := lets 2 (by decide)
    simp_all [ComThreadWorker.accepts, ComThreadWorker.lets]

namespace TaskState

def setPost (state : TaskState) (call : Nat) (phase : PostPhase) : TaskState :=
  { state with posts := Function.update state.posts call phase }

def setFault (state : TaskState) (call : Nat) (phase : FaultPhase) : TaskState :=
  { state with faults := Function.update state.faults call phase }

def setStop (state : TaskState) (call : Nat) (phase : StopPhase) : TaskState :=
  { state with stops := Function.update state.stops call phase }

def setWorker (state : TaskState) (change : ComThreadWorker → ComThreadWorker) : TaskState :=
  { state with worker := change state.worker }

/-- The next access of a `postTask`. -/
def post (state : TaskState) (call : Nat) : Option TaskState :=
  match state.posts call with
  | .absent => some (state.setPost call (.testing 0))
  | .testing passed =>
      some (state.setPost call
        (if !state.worker.lets passed then .returned false
          else if passed < 2 then .testing (passed + 1)
          else .acquiring))
  | .acquiring =>
      match state.taskMutex with
      | none => some { state.setPost call (.retesting 0) with taskMutex := some call }
      | some _ => none
  | .retesting passed =>
      if !state.worker.lets passed then
        some { state.setPost call (.returned false) with taskMutex := none }
      else
        some (state.setPost call (if passed < 2 then .retesting (passed + 1) else .pushing))
  | .pushing =>
      some { state.setPost call .unlocking with
        taskQueue := state.taskQueue ++ [call]
        accepted := state.accepted ++ [call] }
  | .unlocking => some { state.setPost call (.returned true) with taskMutex := none }
  | .returned _ => none

/-- The next store of a `recordFault`. -/
def fault (state : TaskState) (call : Nat) (message : String) (now : Int) : Option TaskState :=
  match state.faults call with
  | .absent =>
      some ((state.setFault call .faulting).setWorker fun worker =>
        { worker with lastFaultMessage := message, lastFaultTimestamp := now })
  | .faulting =>
      some ((state.setFault call .withdrawing).setWorker fun worker =>
        { worker with faulted := true })
  | .withdrawing =>
      some ((state.setFault call .returned).setWorker fun worker =>
        { worker with acceptingTasks := false })
  | .returned => none

/-- The next access of a `stop`.  A thread that has left has no id to post to. -/
def stop (state : TaskState) (call : Nat) : Option TaskState :=
  match state.stops call with
  | .absent =>
      some (state.setStop call
        (if !state.worker.running && !state.joinable then .returned else .withdrawing))
  | .withdrawing =>
      some ((state.setStop call .posting).setWorker fun worker =>
        { worker with acceptingTasks := false })
  | .posting =>
      some { state.setStop call .joining with
        quitPosted := state.quitPosted || state.thread != .left }
  | .joining =>
      match state.thread with
      | .left => some { state.setStop call .clearing with joinable := false }
      | _ => none
  | .clearing =>
      some ((state.setStop call .returned).setWorker fun worker => { worker with running := false })
  | .returned => none

/-- The next step of the thread. -/
def runThread (state : TaskState) (peeked : PeekedMessage) : Option TaskState :=
  match state.thread with
  | .looping =>
      some { state with thread := if state.worker.running then .swapping false else .left }
  | .swapping last =>
      match state.taskMutex with
      | none => some { state with taskQueue := [], thread := .executing state.taskQueue last }
      | some _ => none
  | .executing [] last => some { state with thread := if last then .quitting else .peeking }
  | .executing (task :: tasks) last =>
      some { state with thread := .executing tasks last, ran := state.ran ++ [task] }
  | .peeking =>
      match peeked with
      | .nothing => some { state with thread := if state.worker.running then .waiting else .looping }
      | .other => some state
      | .quit => if state.quitPosted then some { state with thread := .swapping true } else none
  | .quitting =>
      some { state.setWorker fun worker => { worker with running := false } with
        thread := .looping }
  | .waiting => some { state with thread := .looping }
  | .left => none

end TaskState

def taskStep (state : TaskState) : TaskAction → Option TaskState
  | .post call => state.post call
  | .fault call message now => state.fault call message now
  | .stop call => state.stop call
  | .thread peeked => state.runThread peeked

/-- The three stores of a call are `recordFault`. -/
theorem fault_recordFault {state : TaskState} {call : Nat} (phase : state.faults call = .absent)
    (message : String) (now : Int) :
    ∃ next, run taskStep state (List.replicate 3 (.fault call message now)) = some next ∧
      next.worker = state.worker.recordFault message now := by
  simp [run, List.replicate, taskStep, TaskState.fault, TaskState.setFault, TaskState.setWorker,
    phase, ComThreadWorker.recordFault]

end JVLinkServer.Core
