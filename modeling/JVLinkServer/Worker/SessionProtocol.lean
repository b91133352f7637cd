import JVLinkServer.Transition
import JVLinkServer.Worker.Session

namespace JVLinkServer.Worker

open Transition

/-! # Requests, leases and session resets

The lock-taking handlers, busy answers and `/session/reset` as interleaved steps.
Each step is one access to shared state: the operation lock, the active session
under its mutex, or the atomic reset generation.
-/

/-- Where a handler of a lock-taking endpoint is.  `sampled` is the only phase in
which the cancel predicate is polled; `sampledAt` counts the increments of the
reset generation made before the sample and is not known to the program. -/
inductive RequestPhase
  | absent
  | arrived
  | rejected
  | answering (headers : SessionSnapshot)
  | locked
  | published
  | sampled (observedGeneration : UInt64) (sampledAt : Nat)
  | cleared
  | finished (busyAnswer : Option (SessionSnapshot × SessionSnapshot))
  deriving DecidableEq, Repr

/-- `returnedBefore` records which resets had returned when the request took the
operation lock. -/
structure Request where
  phase : RequestPhase := .absent
  incoming : IncomingRequest
  returnedBefore : Nat → Bool := fun _ => false

/-- The `action` member of the answer to `/session/reset`. -/
inductive ResetAction
  | released
  | noop
  | cancelRequested
  deriving DecidableEq, Repr

/-- `requestSessionReset`.  `ordinal` is the number of increments made before its
own. -/
inductive ResetPhase
  | absent
  | arrived
  | looked (before : SessionSnapshot)
  | polling (before : SessionSnapshot) (polls : Nat) (ordinal : Nat)
  | answering (action : ResetAction) (ordinal : Nat)
  | returned (action : ResetAction) (session : SessionSnapshot) (ordinal : Nat)
  deriving DecidableEq, Repr

/-- `saw` names the request whose session the first snapshot showed as busy. -/
structure Reset where
  phase : ResetPhase := .absent
  saw : Option Nat := none
  deriving DecidableEq, Repr

def RequestPhase.holdsLock : RequestPhase → Bool
  | .locked | .published | .sampled .. | .cleared => true
  | _ => false

/-- The `SessionLease` is alive. -/
def RequestPhase.leased : RequestPhase → Bool
  | .published | .sampled .. => true
  | _ => false

@[grind →] theorem RequestPhase.holdsLock_of_leased {phase : RequestPhase}
    (leased : phase.leased = true) : phase.holdsLock = true := by
  cases phase <;> first | rfl | contradiction

def ResetPhase.ordinal? : ResetPhase → Option Nat
  | .absent | .arrived | .looked _ => none
  | .polling _ _ ordinal | .answering _ ordinal | .returned _ _ ordinal => some ordinal

def ResetPhase.hasReturned : ResetPhase → Bool
  | .returned .. => true
  | _ => false

/-- `publisher` is the request whose lease wrote the active session, and
`increments` the number of increments so far, of which the program keeps the low
64 bits. -/
structure SessionState where
  operationLock : Option Nat := none
  activeSession : SessionSnapshot := {}
  publisher : Option Nat := none
  resetGeneration : UInt64 := 0
  increments : Nat := 0
  requests : Nat → Request
  resets : Nat → Reset

inductive SessionAction
  | requestArrives (request : Nat) (incoming : IncomingRequest)
  | tryLock (request : Nat)
  | publish (request : Nat) (now : Int) (watchActive : Bool)
  | sample (request : Nat)
  | clear (request : Nat)
  | unlock (request : Nat)
  | busyHeaders (request : Nat) (now : Int) (watchActive : Bool)
  | busyBody (request : Nat) (now : Int) (watchActive : Bool)
  | resetArrives (reset : Nat)
  | resetLook (reset : Nat) (now : Int) (watchActive : Bool)
  | resetIncrement (reset : Nat)
  | resetPoll (reset : Nat) (now : Int) (watchActive : Bool)
  | resetAnswer (reset : Nat) (now : Int) (watchActive : Bool)
  deriving DecidableEq, Repr

/-- The polls made by `requestSessionReset` before it answers `accepted`. -/
def resetPollLimit : Nat := 20

namespace SessionState

def setRequest (state : SessionState) (request : Nat) (value : Request) : SessionState :=
  { state with requests := fun other => if other = request then value else state.requests other }

def setPhase (state : SessionState) (request : Nat) (phase : RequestPhase) : SessionState :=
  state.setRequest request { state.requests request with phase }

def setReset (state : SessionState) (reset : Nat) (value : Reset) : SessionState :=
  { state with resets := fun other => if other = reset then value else state.resets other }

def setResetPhase (state : SessionState) (reset : Nat) (phase : ResetPhase) : SessionState :=
  state.setReset reset { state.resets reset with phase }

def snapshot (state : SessionState) (now : Int) (watchActive : Bool) : SessionSnapshot :=
  getSessionSnapshot state.activeSession now watchActive

/-- `isSessionResetRequested` -/
def isSessionResetRequested (state : SessionState) (observedGeneration : UInt64) : Bool :=
  state.resetGeneration != observedGeneration

/-- `try_to_lock` on the operation lock, which a handler does once. -/
def tryLock (state : SessionState) (request : Nat) : SessionState :=
  match state.operationLock with
  | some _ => state.setPhase request .rejected
  | none =>
      { state.setRequest request
          { state.requests request with
            phase := .locked
            returnedBefore := fun reset => (state.resets reset).phase.hasReturned } with
        operationLock := some request }

/-- The constructor of `SessionLease`. -/
def publish (state : SessionState) (request : Nat) (now : Int) (watchActive : Bool) :
    SessionState :=
  { state.setPhase request .published with
    activeSession := makeSessionSnapshot (state.requests request).incoming now watchActive
    publisher := some request }

def sample (state : SessionState) (request : Nat) : SessionState :=
  state.setPhase request (.sampled state.resetGeneration state.increments)

/-- The destructor of `SessionLease`. -/
def clear (state : SessionState) (request : Nat) : SessionState :=
  let requestId := (state.requests request).incoming.requestId
  { state.setPhase request .cleared with
    activeSession := clearActiveSession state.activeSession requestId
    publisher :=
      if state.activeSession.requestId = requestId then none else state.publisher }

def unlock (state : SessionState) (request : Nat) : SessionState :=
  { state.setPhase request (.finished none) with operationLock := none }

def resetLook (state : SessionState) (reset : Nat) (now : Int) (watchActive : Bool) :
    SessionState :=
  let before := state.snapshot now watchActive
  state.setReset reset
    { phase := .looked before
      saw := if before.busy then state.publisher else none }

def resetIncrement (state : SessionState) (reset : Nat) (before : SessionSnapshot) :
    SessionState :=
  { state.setResetPhase reset (.polling before 0 state.increments) with
    resetGeneration := state.resetGeneration + 1
    increments := state.increments + 1 }

def resetPoll (state : SessionState) (reset : Nat) (before : SessionSnapshot)
    (polls ordinal : Nat) (now : Int) (watchActive : Bool) : SessionState :=
  state.setResetPhase reset <|
    if !(state.snapshot now watchActive).busy then
      .answering (if before.busy then .released else .noop) ordinal
    else if polls + 1 < resetPollLimit then
      .polling before (polls + 1) ordinal
    else
      .answering .cancelRequested ordinal

end SessionState

open SessionState in
def sessionStep (state : SessionState) : SessionAction → Option SessionState
  | .requestArrives request incoming =>
      match (state.requests request).phase with
      | .absent => some (state.setRequest request { phase := .arrived, incoming })
      | _ => none
  | .tryLock request =>
      match (state.requests request).phase with
      | .arrived => some (state.tryLock request)
      | _ => none
  | .publish request now watchActive =>
      match (state.requests request).phase with
      | .locked => some (state.publish request now watchActive)
      | _ => none
  | .sample request =>
      match (state.requests request).phase, (state.requests request).incoming.operation.streams with
      | .published, true => some (state.sample request)
      | _, _ => none
  | .clear request =>
      -- An exception may end a streaming handler before it samples.
      match (state.requests request).phase with
      | .published | .sampled .. => some (state.clear request)
      | _ => none
  | .unlock request =>
      match (state.requests request).phase with
      | .cleared => some (state.unlock request)
      | _ => none
  | .busyHeaders request now watchActive =>
      match (state.requests request).phase with
      | .rejected => some (state.setPhase request (.answering (state.snapshot now watchActive)))
      | _ => none
  | .busyBody request now watchActive =>
      match (state.requests request).phase with
      | .answering headers =>
          some (state.setPhase request (.finished (some (headers, state.snapshot now watchActive))))
      | _ => none
  | .resetArrives reset =>
      match (state.resets reset).phase with
      | .absent => some (state.setResetPhase reset .arrived)
      | _ => none
  | .resetLook reset now watchActive =>
      match (state.resets reset).phase with
      | .arrived => some (state.resetLook reset now watchActive)
      | _ => none
  | .resetIncrement reset =>
      match (state.resets reset).phase with
      | .looked before => some (state.resetIncrement reset before)
      | _ => none
  | .resetPoll reset now watchActive =>
      match (state.resets reset).phase with
      | .polling before polls ordinal =>
          some (state.resetPoll reset before polls ordinal now watchActive)
      | _ => none
  | .resetAnswer reset now watchActive =>
      match (state.resets reset).phase with
      | .answering action ordinal =>
          some (state.setResetPhase reset
            (.returned action (state.snapshot now watchActive) ordinal))
      | _ => none

/-- The server has started and served nothing yet. -/
def SessionState.initial : SessionState where
  requests := fun _ =>
    { incoming := { operation := .queryStored, path := "", requestId := [], remoteAddr := "" } }
  resets := fun _ => {}

/-! ## What a step can do -/

/-- The steps with their guards.  Taking the operation lock has two outcomes. -/
inductive SessionStep (state : SessionState) : SessionAction → SessionState → Prop
  | requestArrives {request incoming} (phase : (state.requests request).phase = .absent) :
      SessionStep state (.requestArrives request incoming)
        (state.setRequest request { phase := .arrived, incoming })
  | lockTaken {request} (phase : (state.requests request).phase = .arrived)
      (free : state.operationLock = none) :
      SessionStep state (.tryLock request)
        { state.setRequest request
            { state.requests request with
              phase := .locked
              returnedBefore := fun reset => (state.resets reset).phase.hasReturned } with
          operationLock := some request }
  | lockBusy {request owner} (phase : (state.requests request).phase = .arrived)
      (held : state.operationLock = some owner) :
      SessionStep state (.tryLock request) (state.setPhase request .rejected)
  | publish {request now watchActive} (phase : (state.requests request).phase = .locked) :
      SessionStep state (.publish request now watchActive) (state.publish request now watchActive)
  | sample {request} (phase : (state.requests request).phase = .published)
      (streams : (state.requests request).incoming.operation.streams = true) :
      SessionStep state (.sample request) (state.sample request)
  | clear {request} (phase : (state.requests request).phase.leased = true) :
      SessionStep state (.clear request) (state.clear request)
  | unlock {request} (phase : (state.requests request).phase = .cleared) :
      SessionStep state (.unlock request) (state.unlock request)
  | busyHeaders {request now watchActive} (phase : (state.requests request).phase = .rejected) :
      SessionStep state (.busyHeaders request now watchActive)
        (state.setPhase request (.answering (state.snapshot now watchActive)))
  | busyBody {request now watchActive headers}
      (phase : (state.requests request).phase = .answering headers) :
      SessionStep state (.busyBody request now watchActive)
        (state.setPhase request (.finished (some (headers, state.snapshot now watchActive))))
  | resetArrives {reset} (phase : (state.resets reset).phase = .absent) :
      SessionStep state (.resetArrives reset) (state.setResetPhase reset .arrived)
  | resetLook {reset now watchActive} (phase : (state.resets reset).phase = .arrived) :
      SessionStep state (.resetLook reset now watchActive) (state.resetLook reset now watchActive)
  | resetIncrement {reset before} (phase : (state.resets reset).phase = .looked before) :
      SessionStep state (.resetIncrement reset) (state.resetIncrement reset before)
  | resetPoll {reset now watchActive before polls ordinal}
      (phase : (state.resets reset).phase = .polling before polls ordinal) :
      SessionStep state (.resetPoll reset now watchActive)
        (state.resetPoll reset before polls ordinal now watchActive)
  | resetAnswer {reset now watchActive action ordinal}
      (phase : (state.resets reset).phase = .answering action ordinal) :
      SessionStep state (.resetAnswer reset now watchActive)
        (state.setResetPhase reset (.returned action (state.snapshot now watchActive) ordinal))

theorem sessionStep_cases {state next : SessionState} {action : SessionAction}
    (taken : sessionStep state action = some next) : SessionStep state action next := by
  cases action with
  | tryLock request =>
      simp only [sessionStep] at taken
      split at taken
      case h_2 => contradiction
      case h_1 phase =>
        cases taken
        cases lock : state.operationLock with
        | none => simpa [SessionState.tryLock, lock] using SessionStep.lockTaken phase lock
        | some owner => simpa [SessionState.tryLock, lock] using SessionStep.lockBusy phase lock
  | clear request =>
      simp only [sessionStep] at taken
      split at taken
      case h_3 => contradiction
      all_goals
        next phase =>
          cases taken
          exact .clear (by simp [phase, RequestPhase.leased])
  | sample request =>
      simp only [sessionStep] at taken
      split at taken
      case h_2 => contradiction
      case h_1 phase streams =>
        cases taken
        exact .sample phase streams
  | _ =>
      simp only [sessionStep] at taken
      split at taken
      case h_2 => contradiction
      case h_1 phase =>
        cases taken
        constructor
        exact phase

/-! ## Exclusion -/

/-- At most one request is between taking and releasing the operation lock, and
the active session is the snapshot of the one that holds a lease. -/
structure SessionState.Exclusive (state : SessionState) : Prop where
  lock : ∀ request, (state.requests request).phase.holdsLock →
    state.operationLock = some request
  lease : ∀ request, (state.requests request).phase.leased →
    state.publisher = some request ∧
      state.activeSession.requestId = (state.requests request).incoming.requestId
  publisher : ∀ request, state.publisher = some request →
    (state.requests request).phase.leased

theorem SessionState.Exclusive.initial : SessionState.initial.Exclusive where
  lock := by simp [SessionState.initial, RequestPhase.holdsLock]
  lease := by simp [SessionState.initial, RequestPhase.leased]
  publisher := by simp [SessionState.initial]

/-- A request outside the lock may move as long as it stays outside. -/
theorem SessionState.Exclusive.setRequest {state : SessionState} (exclusive : state.Exclusive)
    {request : Nat} {value : Request}
    (before : (state.requests request).phase.holdsLock = false)
    (after : value.phase.holdsLock = false) : (state.setRequest request value).Exclusive := by
  obtain ⟨lock, lease, publisher⟩ := exclusive
  constructor <;> intro other <;> simp only [SessionState.setRequest] <;> grind

theorem SessionState.Exclusive.step {state next : SessionState} {action : SessionAction}
    (exclusive : state.Exclusive) (taken : sessionStep state action = some next) :
    next.Exclusive := by
  cases sessionStep_cases taken with
  | resetArrives phase | resetLook phase | resetIncrement phase | resetPoll phase
  | resetAnswer phase =>
      exact ⟨exclusive.lock, exclusive.lease, exclusive.publisher⟩
  | requestArrives phase | lockBusy phase _ | busyHeaders phase | busyBody phase =>
      exact exclusive.setRequest (by simp [phase, RequestPhase.holdsLock]) rfl
  | lockTaken phase free =>
      obtain ⟨lock, lease, publisher⟩ := exclusive
      have noHolder : ∀ other, (state.requests other).phase.holdsLock = false := by grind
      constructor <;> intro other <;> simp only [SessionState.setRequest] <;>
        grind [RequestPhase.leased]
  | publish phase | sample phase streams | clear leased | unlock phase =>
      obtain ⟨lock, lease, publisher⟩ := exclusive
      constructor <;> intro other <;>
        simp only [SessionState.publish, SessionState.sample, SessionState.clear,
          SessionState.unlock, SessionState.setPhase, SessionState.setRequest] <;>
        grind [RequestPhase.holdsLock, RequestPhase.leased, makeSessionSnapshot_requestId]

end JVLinkServer.Worker
