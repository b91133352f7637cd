import JVLinkServer.TextLines
import JVLinkServer.Worker.EventDelivery

namespace JVLinkServer.Worker

open Transition

/-! # The body of an event stream

What the content provider has written to a client: greetings, pings and the events that
it took off the queue.
-/

inductive StreamPiece
  | connected
  | ping
  | event (event : JVEvent)
  deriving DecidableEq, Repr

namespace StreamPiece

def message (piece : StreamPiece) : Bytes :=
  match piece with
  | .connected =>
      utf8 "event: connected\ndata: \x7b\x22message\x22: \x22Connected to JVLink event stream\x22\x7d\n\n"
  | .ping => utf8 ":ping\n\n"
  | .event sent => eventMessage sent

def event? (piece : StreamPiece) : Option JVEvent :=
  match piece with
  | .event sent => some sent
  | .connected | .ping => none

end StreamPiece

/-- The bytes that a client has been sent. -/
def streamBody (pieces : List StreamPiece) : Bytes := pieces.flatMap StreamPiece.message

def streamedEvents (pieces : List StreamPiece) : List JVEvent :=
  pieces.filterMap StreamPiece.event?

/-! ## The pieces of a run -/

/-- What a step writes to a client. -/
def EventState.written? (client : Nat) (state : EventState) : EventAction → Option StreamPiece
  | .greet writer true => if writer = client then some .connected else none
  | .writeEvent writer true =>
      match state.clients writer with
      | .sending event => if writer = client then some (.event event.1) else none
      | _ => none
  | .beat writer (some true) => if writer = client then some .ping else none
  | _ => none

def piecesWritten (client : Nat) : EventState → List EventAction → List StreamPiece
  | _, [] => []
  | state, action :: rest =>
      let pieces := (state.written? client action).toList
      match eventStep state action with
      | some next => pieces ++ piecesWritten client next rest
      | none => pieces

theorem written_step {state next : EventState} {action : EventAction} (client : Nat)
    (owned : state.Owned) (taken : eventStep state action = some next) :
    (next.writtenTo client).map Prod.fst =
      (state.writtenTo client).map Prod.fst ++
        streamedEvents (state.written? client action).toList := by
  cases eventStep_cases owned taken with
  | quiet quiet after noWrite =>
      have none : streamedEvents (state.written? client action).toList = [] := by
        unfold EventState.written?
        split
        · split <;> rfl
        · exact absurd rfl (noWrite _ _)
        · split <;> rfl
        · rfl
      rw [none, List.append_nil, EventState.writtenTo, quiet.writes]
      rfl
  | arrives free => simp [EventState.written?, streamedEvents]; rfl
  | take phase queue => simp [EventState.written?, streamedEvents]; rfl
  | @written writer event phase =>
      simp only [EventState.written?, phase]
      by_cases same : writer = client
      · simp [EventState.writtenTo, EventState.record, EventState.setClient, same, streamedEvents,
          StreamPiece.event?]
      · simp [EventState.writtenTo, EventState.record, EventState.setClient, same, streamedEvents]
  | lost phase =>
      simp [EventState.written?, streamedEvents, EventState.writtenTo, EventState.record,
        EventState.release, EventState.setClient]

/-- The events in the body are those whose writes have succeeded. -/
theorem streamedEvents_written {client : Nat} {actions : List EventAction}
    {start state : EventState} (owned : start.Owned)
    (ran : run eventStep start actions = some state) :
    (state.writtenTo client).map Prod.fst = (start.writtenTo client).map Prod.fst ++
      streamedEvents (piecesWritten client start actions) := by
  induction actions generalizing start with
  | nil =>
      cases ran
      simp [piecesWritten, streamedEvents]
  | cons action rest ih =>
      obtain ⟨next, taken, ran⟩ := run_cons_eq_some.mp ran
      rw [ih (owned.step taken) ran, written_step client owned taken, piecesWritten, taken]
      simp [streamedEvents]

end JVLinkServer.Worker
