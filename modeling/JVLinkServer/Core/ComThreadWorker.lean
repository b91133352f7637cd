import Mathlib

namespace JVLinkServer.Core

/-! # The COM thread

JV-Link lives on one thread, which takes tasks from a queue.  A caller that waits
too long for its task gives the thread up for good: `m_faulted` is never cleared.
-/

structure ComWorkerHealthSnapshot where
  running : Bool := false
  acceptingTasks : Bool := false
  faulted : Bool := false
  lastFaultTimestamp : Int := 0
  lastFaultMessage : String := ""
  deriving DecidableEq, Repr

structure ComThreadWorker where
  running : Bool := false
  acceptingTasks : Bool := false
  faulted : Bool := false
  lastFaultTimestamp : Int := 0
  lastFaultMessage : String := ""
  deriving DecidableEq, Repr

namespace ComThreadWorker

/-- `start`, when the thread can initialise COM. -/
def start (worker : ComThreadWorker) : ComThreadWorker :=
  if worker.running then worker else { worker with running := true, acceptingTasks := true }

def getLastFaultMessage (worker : ComThreadWorker) : String :=
  if worker.lastFaultMessage.isEmpty then "COM worker is faulted" else worker.lastFaultMessage

def getHealthSnapshot (worker : ComThreadWorker) : ComWorkerHealthSnapshot where
  running := worker.running
  acceptingTasks := worker.acceptingTasks
  faulted := worker.faulted
  lastFaultTimestamp := worker.lastFaultTimestamp
  lastFaultMessage := worker.lastFaultMessage

def recordFault (worker : ComThreadWorker) (message : String) (now : Int) : ComThreadWorker :=
  { worker with
    lastFaultMessage := message
    lastFaultTimestamp := now
    faulted := true
    acceptingTasks := false }

/-- The test of `postTask`. -/
def accepts (worker : ComThreadWorker) : Bool :=
  worker.running && worker.acceptingTasks && !worker.faulted

end ComThreadWorker

/-- How the wait for a task with a timeout ends.  A task that is given up may still
run; its effects are then taken to come before the fault is recorded. -/
inductive TaskFate
  | completes
  | timesOut (ran : Bool)
  deriving DecidableEq, Repr

end JVLinkServer.Core
