import JVLinkServer.JsonRoundTrip
import JVLinkServer.Transition

namespace JVLinkServer.Worker

open Transition

/-! # The event queue

JV-Link pushes events into one bounded queue, from which every connected SSE client takes
what it can.  The queue mutex is held by a client from its check of the queue to the end
of a turn of its loop, writes included.
-/

structure JVEvent where
  type : String
  param : String
  timestamp : Int
  deriving DecidableEq, Repr

/-- The event type of a DISPID. -/
def eventType (dispId : Int) : String :=
  match dispId with
  | 1 => "JVEvtPay"
  | 2 => "JVEvtJockeyChange"
  | 3 => "JVEvtWeather"
  | 4 => "JVEvtCourseChange"
  | 5 => "JVEvtAvoid"
  | 6 => "JVEvtTimeChange"
  | 7 => "JVEvtWeight"
  | _ => "Unknown"

def eventData (event : JVEvent) : Json :=
  .record
    [("type", .text event.type),
     ("param", .text event.param),
     ("timestamp", .integer event.timestamp)]

/-- Serialising an event cannot throw. -/
theorem eventData_isText (event : JVEvent) : (eventData event).isText = true := by
  apply Json.isText_record
  simp [Json.isText]

/-- What a client is sent for an event. -/
def eventMessage (event : JVEvent) : Bytes :=
  utf8 "event: jvlink_event\n" ++ utf8 "data: " ++ (eventData event).render ++ utf8 "\n\n"

/-- An event with the number of those that arrived before it, which the program does not
know. -/
abbrev Arrival := JVEvent × Nat

/-- Where the content provider of a client is.  It holds the queue mutex from `checking`
to `beating`. -/
inductive ClientPhase
  | absent
  | greeting
  | looping
  | acquiring
  | checking
  | waiting
  | draining
  | sending (event : Arrival)
  | beating
  | returned (continues : Bool)
  deriving DecidableEq, Repr

def ClientPhase.holdsMutex : ClientPhase → Bool
  | .checking | .draining | .sending _ | .beating => true
  | _ => false

/-- A finished `sink.write` of an event. -/
structure EventWrite where
  client : Nat
  succeeded : Bool
  event : Arrival
  deriving DecidableEq, Repr

/-- `arrived` and `writes` keep what has happened; the program knows neither. -/
structure EventState where
  running : Bool := true
  queue : List Arrival := []
  mutex : Option Nat := none
  clients : Nat → ClientPhase := fun _ => .absent
  arrived : List JVEvent := []
  writes : List EventWrite := []

/-- The steps of the server and of its clients.  The outcomes of waits and writes are the
environment's. -/
inductive EventAction
  | arrives (dispId : Int) (param : String) (now : Int)
  | stop
  | provide (client : Nat)
  | greet (client : Nat) (succeeded : Bool)
  | loop (client : Nat)
  | acquire (client : Nat)
  | check (client : Nat) (timedOut : Bool)
  | drain (client : Nat)
  | writeEvent (client : Nat) (succeeded : Bool)
  | beat (client : Nat) (ping : Option Bool)
  deriving DecidableEq, Repr

def eventLimit : Nat := 100

namespace EventState

def setClient (state : EventState) (client : Nat) (phase : ClientPhase) : EventState :=
  { state with clients := Function.update state.clients client phase }

/-- `handleJvLinkEvent`, whose oldest events give way beyond the limit. -/
def enqueue (state : EventState) (event : JVEvent) : EventState :=
  let queue := state.queue ++ [(event, state.arrived.length)]
  { state with
    queue := queue.drop (queue.length - eventLimit)
    arrived := state.arrived ++ [event] }

/-- Leave the mutex with the next phase. -/
def release (state : EventState) (client : Nat) (phase : ClientPhase) : EventState :=
  { state.setClient client phase with mutex := none }

def record (state : EventState) (write : EventWrite) : EventState :=
  { state with writes := state.writes ++ [write] }

/-- The predicate that `wait_for` checks under the mutex. -/
def wanted (state : EventState) : Bool := !state.queue.isEmpty || !state.running

def writtenTo (state : EventState) (client : Nat) : List Arrival :=
  (state.writes.filter fun write => write.client = client ∧ write.succeeded).map EventWrite.event

end EventState

open EventState in
def eventStep (state : EventState) : EventAction → Option EventState
  | .arrives dispId param now =>
      if param.isEmpty then some state
      else
        match state.mutex with
        | none => some (state.enqueue { type := eventType dispId, param, timestamp := now })
        | some _ => none
  | .stop => some { state with running := false }
  | .provide client =>
      -- A provider that returned true without `done` is called again.
      match state.clients client with
      | .absent | .returned true => some (state.setClient client .greeting)
      | _ => none
  | .greet client succeeded =>
      match state.clients client with
      | .greeting =>
          some (state.setClient client (if succeeded then .looping else .returned false))
      | _ => none
  | .loop client =>
      match state.clients client with
      | .looping => some (state.setClient client (if state.running then .acquiring else .returned true))
      | _ => none
  | .acquire client =>
      match state.clients client, state.mutex with
      | .acquiring, none | .waiting, none =>
          some { state.setClient client .checking with mutex := some client }
      | _, _ => none
  | .check client timedOut =>
      match state.clients client with
      | .checking =>
          if state.wanted then some (state.setClient client .draining)
          else if timedOut then some (state.setClient client .beating)
          else some (state.release client .waiting)
      | _ => none
  | .drain client =>
      match state.clients client with
      | .draining =>
          match state.queue with
          | [] => some (state.setClient client .beating)
          | event :: rest => some { state.setClient client (.sending event) with queue := rest }
      | _ => none
  | .writeEvent client succeeded =>
      match state.clients client with
      | .sending event =>
          let written := state.record { client, succeeded, event }
          if succeeded then some (written.setClient client .draining)
          else some (written.release client (.returned false))
      | _ => none
  | .beat client ping =>
      match state.clients client with
      | .beating =>
          some (state.release client (if ping = some false then .returned false else .looping))
      | _ => none

/-! ## What a step can do -/

/-- Only the owner of the mutex is in a phase that holds it. -/
def EventState.Owned (state : EventState) : Prop :=
  ∀ client, (state.clients client).holdsMutex = true → state.mutex = some client

/-- Nothing happens to an event. -/
structure Quiet (state next : EventState) : Prop where
  queue : next.queue = state.queue
  arrived : next.arrived = state.arrived
  writes : next.writes = state.writes
  sending : ∀ client event, next.clients client = .sending event ↔
    state.clients client = .sending event

/-- The steps, by what becomes of the events. -/
inductive EventStep (state : EventState) : EventAction → EventState → Prop
  | quiet {action next} (quiet : Quiet state next) (owned : next.Owned)
      (noWrite : ∀ client succeeded, action ≠ .writeEvent client succeeded) :
      EventStep state action next
  | arrives {dispId param now} (free : state.mutex = none) :
      EventStep state (.arrives dispId param now)
        (state.enqueue { type := eventType dispId, param, timestamp := now })
  | take {client event rest} (phase : state.clients client = .draining)
      (queue : state.queue = event :: rest) :
      EventStep state (.drain client)
        { state.setClient client (.sending event) with queue := rest }
  | written {client event} (phase : state.clients client = .sending event) :
      EventStep state (.writeEvent client true)
        ((state.record { client, succeeded := true, event }).setClient client .draining)
  | lost {client event} (phase : state.clients client = .sending event) :
      EventStep state (.writeEvent client false)
        ((state.record { client, succeeded := false, event }).release client (.returned false))

section Moves

variable {state : EventState} {client : Nat} {phase : ClientPhase}

theorem EventState.Owned.setClient (owned : state.Owned)
    (held : phase.holdsMutex = true → state.mutex = some client) :
    (state.setClient client phase).Owned := by
  intro other holds
  by_cases same : other = client
  · subst same
    simp only [EventState.setClient, Function.update_self] at holds
    exact held holds
  · simp only [EventState.setClient, Function.update_of_ne same] at holds
    exact owned other holds

/-- The owner leaves, and nobody else was in. -/
theorem EventState.Owned.release (owned : state.Owned) (held : state.mutex = some client)
    (after : phase.holdsMutex = false) : (state.release client phase).Owned := by
  intro other holds
  by_cases same : other = client
  · subst same
    simp [EventState.release, EventState.setClient, after] at holds
  · simp only [EventState.release, EventState.setClient, Function.update_of_ne same] at holds
    have owner := (owned other holds).symm.trans held
    exact absurd (Option.some.inj owner) same

theorem EventState.Owned.acquire (owned : state.Owned) (free : state.mutex = none) :
    EventState.Owned { state.setClient client phase with mutex := some client } := by
  intro other holds
  by_cases same : other = client
  · rw [same]
  · simp only [EventState.setClient, Function.update_of_ne same] at holds
    cases free.symm.trans (owned other holds)

/-- A client that neither was nor is sending has moved. -/
theorem quiet_of_moved {next : EventState} (queue : next.queue = state.queue)
    (arrived : next.arrived = state.arrived) (writes : next.writes = state.writes)
    (moved : next.clients = Function.update state.clients client phase)
    (before : ∀ event, state.clients client ≠ .sending event)
    (after : ∀ event, phase ≠ .sending event) : Quiet state next := by
  refine ⟨queue, arrived, writes, fun other event => ?_⟩
  rw [moved]
  by_cases same : other = client
  · subst same
    simp [before event, after event]
  · simp [same]

end Moves

theorem eventStep_cases {state next : EventState} {action : EventAction} (owned : state.Owned)
    (taken : eventStep state action = some next) : EventStep state action next := by
  have same : Quiet state state := ⟨rfl, rfl, rfl, fun _ _ => Iff.rfl⟩
  cases action with
  | arrives dispId param now =>
      simp only [eventStep] at taken
      split at taken
      · cases taken
        exact .quiet same owned (by simp)
      · split at taken
        · rename_i free
          cases taken
          exact .arrives free
        · contradiction
  | stop =>
      cases taken
      exact .quiet ⟨rfl, rfl, rfl, fun _ _ => Iff.rfl⟩ owned (by simp)
  | provide client =>
      simp only [eventStep] at taken
      split at taken
      case h_3 => contradiction
      all_goals
        next phase =>
          cases taken
          exact .quiet (quiet_of_moved rfl rfl rfl rfl (by simp [phase]) (by simp))
            (owned.setClient (by simp [ClientPhase.holdsMutex])) (by simp)
  | greet client succeeded =>
      simp only [eventStep] at taken
      split at taken
      case h_2 => contradiction
      case h_1 phase =>
        cases taken
        refine .quiet (quiet_of_moved rfl rfl rfl rfl (by simp [phase]) ?_)
            (owned.setClient ?_) (by simp)
        · cases succeeded <;> simp
        · cases succeeded <;> simp [ClientPhase.holdsMutex]
  | loop client =>
      simp only [eventStep] at taken
      split at taken
      case h_2 => contradiction
      case h_1 phase =>
        cases taken
        refine .quiet (quiet_of_moved rfl rfl rfl rfl (by simp [phase]) ?_)
            (owned.setClient ?_) (by simp)
        · cases state.running <;> simp
        · cases state.running <;> simp [ClientPhase.holdsMutex]
  | acquire client =>
      simp only [eventStep] at taken
      split at taken
      case h_3 => contradiction
      all_goals
        next phase free =>
          cases taken
          exact .quiet (quiet_of_moved rfl rfl rfl rfl (by simp [phase]) (by simp))
            (owned.acquire free) (by simp)
  | check client timedOut =>
      simp only [eventStep] at taken
      split at taken
      case h_2 => contradiction
      case h_1 phase =>
        have held := owned client (by simp [phase, ClientPhase.holdsMutex])
        split at taken
        · cases taken
          exact .quiet (quiet_of_moved rfl rfl rfl rfl (by simp [phase]) (by simp))
            (owned.setClient fun _ => held) (by simp)
        · split at taken
          · cases taken
            exact .quiet (quiet_of_moved rfl rfl rfl rfl (by simp [phase]) (by simp))
              (owned.setClient fun _ => held) (by simp)
          · cases taken
            exact .quiet (quiet_of_moved rfl rfl rfl rfl (by simp [phase]) (by simp))
              (owned.release held rfl) (by simp)
  | drain client =>
      simp only [eventStep] at taken
      split at taken
      case h_2 => contradiction
      case h_1 phase =>
        have held := owned client (by simp [phase, ClientPhase.holdsMutex])
        split at taken
        · cases taken
          exact .quiet (quiet_of_moved rfl rfl rfl rfl (by simp [phase]) (by simp))
            (owned.setClient fun _ => held) (by simp)
        · rename_i event rest queue
          cases taken
          exact .take phase queue
  | writeEvent client succeeded =>
      simp only [eventStep] at taken
      split at taken
      case h_2 => contradiction
      case h_1 event phase =>
        cases succeeded with
        | true =>
            cases taken
            exact .written phase
        | false =>
            cases taken
            exact .lost phase
  | beat client ping =>
      simp only [eventStep] at taken
      split at taken
      case h_2 => contradiction
      case h_1 phase =>
        have held := owned client (by simp [phase, ClientPhase.holdsMutex])
        cases taken
        refine .quiet (quiet_of_moved rfl rfl rfl rfl (by simp [phase]) ?_)
          (owned.release held ?_) (by simp)
        · split <;> simp
        · split <;> rfl

end JVLinkServer.Worker
