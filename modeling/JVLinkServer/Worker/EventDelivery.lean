import JVLinkServer.Worker.EventQueue

namespace JVLinkServer.Worker

open Transition

/-! # What becomes of an event

Every event that arrived has been written, is in the hands of the one client that sends,
or waits in the queue, in this order.  An event whose write failed is none of the three.
-/

/-- The events that some client has taken and not finished writing: at most one. -/
inductive InHands (clients : Nat → ClientPhase) : List Arrival → Prop
  | none (idle : ∀ client event, clients client ≠ .sending event) : InHands clients []
  | one {client event}
      (sender : ∀ other otherEvent, clients other = .sending otherEvent ↔
        other = client ∧ otherEvent = event) : InHands clients [event]

namespace InHands

variable {clients next : Nat → ClientPhase} {held : List Arrival} {client : Nat} {event : Arrival}

theorem congr (inHands : InHands clients held)
    (same : ∀ client event, next client = .sending event ↔ clients client = .sending event) :
    InHands next held := by
  cases inHands with
  | none idle => exact .none fun client event sending => idle client event ((same _ _).mp sending)
  | one sender => exact .one fun other event => (same other event).trans (sender other event)

/-- A client that sends holds the one event in hands. -/
theorem eq_of_sending (inHands : InHands clients held) (sending : clients client = .sending event) :
    held = [event] := by
  cases inHands with
  | none idle => exact absurd sending (idle client event)
  | one sender => rw [((sender client event).mp sending).2]

theorem start (inHands : InHands clients []) :
    InHands (Function.update clients client (.sending event)) [event] := by
  cases inHands with
  | none idle =>
      refine @InHands.one _ client event fun other otherEvent => ?_
      by_cases same : other = client
      · subst same
        simp [eq_comm]
      · simp [same, idle other otherEvent]

theorem finish {phase : ClientPhase} (inHands : InHands clients held)
    (sending : clients client = .sending event) (after : ∀ event, phase ≠ .sending event) :
    InHands (Function.update clients client phase) [] := by
  cases inHands with
  | none idle => exact absurd sending (idle client event)
  | one sender =>
      refine .none fun other otherEvent => ?_
      by_cases same : other = client
      · subst same
        simp [after otherEvent]
      · intro also
        rw [Function.update_of_ne same, sender] at also
        have owner := (sender client event).mp sending
        exact same (also.1.trans owner.1.symm)

end InHands

theorem EventState.Owned.of_sending {state : EventState} {client : Nat} {event : Arrival}
    (owned : state.Owned) (sending : state.clients client = .sending event) :
    state.mutex = some client :=
  owned client (by simp [sending, ClientPhase.holdsMutex])

/-- While the owner of the mutex is not sending, nobody is. -/
theorem EventState.Owned.idle {state : EventState} {client : Nat} {held : List Arrival}
    (owned : state.Owned) (inHands : InHands state.clients held)
    (mutex : state.mutex = some client)
    (notSending : ∀ event, state.clients client ≠ .sending event) : held = [] := by
  cases inHands with
  | none idle => rfl
  | @one sending event sender =>
      have phase := (sender sending event).mpr ⟨rfl, rfl⟩
      have holder := owned.of_sending phase
      obtain rfl : sending = client := Option.some.inj (holder.symm.trans mutex)
      exact absurd phase (notSending event)

/-- The books of the queue are in order. -/
structure Accounted (state : EventState) (held : List Arrival) : Prop where
  owned : state.Owned
  inHands : InHands state.clients held
  ledger : state.arrived.zipIdx = state.writes.map EventWrite.event ++ held ++ state.queue

/-- No more than the limit is pending when an event arrives. -/
def WithinLimit (state : EventState) : EventAction → Prop
  | .arrives .. => state.queue.length < eventLimit
  | _ => True

instance (state : EventState) (action : EventAction) : Decidable (WithinLimit state action) := by
  unfold WithinLimit
  split <;> infer_instance

theorem enqueue_queue {state : EventState} {event : JVEvent}
    (within : state.queue.length < eventLimit) :
    (state.enqueue event).queue = state.queue ++ [(event, state.arrived.length)] := by
  have none : (state.queue ++ [(event, state.arrived.length)]).length - eventLimit = 0 := by
    rw [List.length_append, List.length_singleton]
    omega
  simp only [EventState.enqueue, none, List.drop_zero]

theorem Accounted.initial : Accounted {} [] where
  owned := by simp [EventState.Owned, ClientPhase.holdsMutex]
  inHands := .none (by simp)
  ledger := rfl

theorem EventState.Owned.step {state next : EventState} {action : EventAction}
    (owned : state.Owned) (taken : eventStep state action = some next) : next.Owned := by
  cases eventStep_cases owned taken with
  | quiet quiet after noWrite => exact after
  | arrives free => exact owned
  | @take client event rest phase queue =>
      have mutex := owned client (by simp [phase, ClientPhase.holdsMutex])
      exact owned.setClient fun _ => mutex
  | @written client event phase =>
      have mutex := owned.of_sending phase
      have recorded : (state.record { client, succeeded := true, event }).Owned := owned
      exact recorded.setClient fun _ => mutex
  | @lost client event phase =>
      have mutex := owned.of_sending phase
      have recorded : (state.record { client, succeeded := false, event }).Owned := owned
      exact recorded.release mutex rfl

theorem Accounted.step {state next : EventState} {action : EventAction} {held : List Arrival}
    (accounted : Accounted state held) (within : WithinLimit state action)
    (taken : eventStep state action = some next) : ∃ held, Accounted next held := by
  obtain ⟨owned, inHands, ledger⟩ := accounted
  have after := owned.step taken
  cases eventStep_cases owned taken with
  | quiet quiet _ noWrite =>
      refine ⟨held, after, inHands.congr quiet.sending, ?_⟩
      rw [quiet.arrived, quiet.writes, quiet.queue, ledger]
  | arrives free =>
      refine ⟨held, after, inHands, ?_⟩
      rw [enqueue_queue within]
      simp [EventState.enqueue, List.zipIdx_append, ledger]
  | @take client event rest phase queue =>
      have mutex := owned client (by simp [phase, ClientPhase.holdsMutex])
      obtain rfl : held = [] := owned.idle inHands mutex (by simp [phase])
      refine ⟨[event], after, inHands.start, ?_⟩
      simpa [EventState.setClient, queue] using ledger
  | @written client event phase =>
      obtain rfl := inHands.eq_of_sending phase
      refine ⟨[], after, inHands.finish phase (by simp), ?_⟩
      simpa [EventState.setClient, EventState.record] using ledger
  | @lost client event phase =>
      obtain rfl := inHands.eq_of_sending phase
      refine ⟨[], after, inHands.finish phase (by simp), ?_⟩
      simpa [EventState.release, EventState.setClient, EventState.record] using ledger

theorem Accounted.run {actions : List EventAction} {state : EventState}
    (within : Along eventStep WithinLimit {} actions)
    (ran : Transition.run eventStep {} actions = some state) : ∃ held, Accounted state held :=
  run_preserves_along (fun state => ∃ held, Accounted state held)
    (fun _ _ _ ⟨_, accounted⟩ within taken => accounted.step within taken) ⟨[], .initial⟩ within
    ran

/-! ## Failed writes -/

def EventState.HasFailedWrite (state : EventState) : Prop :=
  ∃ write ∈ state.writes, write.succeeded = false

theorem hasFailedWrite_step {state next : EventState} {action : EventAction} (owned : state.Owned)
    (taken : eventStep state action = some next) :
    next.HasFailedWrite ↔
      state.HasFailedWrite ∨ ∃ client, action = .writeEvent client false := by
  unfold EventState.HasFailedWrite
  cases eventStep_cases owned taken with
  | quiet quiet after noWrite =>
      have none : ¬ ∃ client, action = .writeEvent client false :=
        fun ⟨client, same⟩ => noWrite client false same
      rw [quiet.writes, or_iff_left none]
  | arrives free => simp [EventState.enqueue]
  | take phase queue => simp [EventState.setClient]
  | written phase =>
      simp only [EventState.setClient, EventState.record, List.mem_append, List.mem_singleton]
      grind
  | @lost client event phase =>
      refine iff_of_true ⟨{ client, succeeded := false, event }, ?_, rfl⟩ (.inr ⟨client, rfl⟩)
      simp [EventState.release, EventState.setClient, EventState.record]

/-- The log has a failed write exactly when the run has one. -/
theorem hasFailedWrite_iff {actions : List EventAction} {start state : EventState}
    (owned : start.Owned) (ran : run eventStep start actions = some state) :
    state.HasFailedWrite ↔
      start.HasFailedWrite ∨ ∃ client, .writeEvent client false ∈ actions := by
  induction actions generalizing start with
  | nil =>
      cases ran
      simp
  | cons action rest ih =>
      obtain ⟨next, taken, ran⟩ := run_cons_eq_some.mp ran
      rw [ih (owned.step taken) ran, hasFailedWrite_step owned taken, or_assoc]
      simp only [List.mem_cons, exists_or, eq_comm]

/-! ## Conservation -/

/-- Where an event can be. -/
inductive Place
  | queued
  | inHandsOf (client : Nat)
  | writtenTo (client : Nat)

def EventState.At (state : EventState) (event : Arrival) : Place → Prop
  | .queued => event ∈ state.queue
  | .inHandsOf client => state.clients client = .sending event
  | .writtenTo client => event ∈ state.writtenTo client

/-- No event is lost or repeated, and each client gets its events in order. -/
structure EventState.Conserved (state : EventState) : Prop where
  placed : ∀ event ∈ state.arrived.zipIdx, ∃! place, state.At event place
  queued : state.queue.Nodup
  ordered : ∀ client, (state.writtenTo client).Pairwise fun first second => first.2 < second.2

theorem zipIdx_ordered (events : List JVEvent) :
    events.zipIdx.Pairwise fun first second : Arrival => first.2 < second.2 := by
  have numbers := List.pairwise_lt_range' (s := 0) (n := events.length)
  rw [← List.zipIdx_map_snd 0 events] at numbers
  exact List.pairwise_map.mp numbers

section Conservation

variable {state : EventState} {held : List Arrival} {event : Arrival}

theorem Accounted.ordered (accounted : Accounted state held) :
    (state.writes.map EventWrite.event ++ held ++ state.queue).Pairwise
      fun first second => first.2 < second.2 :=
  accounted.ledger ▸ zipIdx_ordered state.arrived

theorem Accounted.nodup (accounted : Accounted state held) :
    (state.writes.map EventWrite.event ++ held ++ state.queue).Nodup :=
  accounted.ordered.imp fun before same => by simp [same] at before

/-- An event is written once, by one client and with one outcome. -/
theorem Accounted.write_unique (accounted : Accounted state held) {first second : EventWrite}
    (inside : first ∈ state.writes) (also : second ∈ state.writes)
    (same : first.event = second.event) : first = second :=
  List.inj_on_of_nodup_map
    (List.Nodup.of_append_left (List.Nodup.of_append_left accounted.nodup)) inside also same

theorem mem_writtenTo {client : Nat} :
    event ∈ state.writtenTo client ↔
      ∃ write ∈ state.writes, write.client = client ∧ write.succeeded = true ∧
        write.event = event := by
  simp [EventState.writtenTo, and_assoc]

/-- The books have three parts without a common event. -/
theorem Accounted.disjoint (accounted : Accounted state held) {write : EventWrite}
    (inside : write ∈ state.writes) : write.event ∉ held ∧ write.event ∉ state.queue := by
  have written := List.mem_map_of_mem (f := EventWrite.event) inside
  have parts := List.nodup_append'.mp accounted.nodup
  refine ⟨?_, List.disjoint_left.mp parts.2.2 (List.mem_append_left _ written)⟩
  exact List.disjoint_left.mp (List.nodup_append'.mp parts.1).2.2 written

theorem Accounted.held_not_queued (accounted : Accounted state held) (inside : event ∈ held) :
    event ∉ state.queue :=
  List.disjoint_left.mp (List.nodup_append'.mp accounted.nodup).2.2 (List.mem_append_right _ inside)

theorem Accounted.mem_held (accounted : Accounted state held) {client : Nat}
    (sending : state.clients client = .sending event) : event ∈ held := by
  rw [accounted.inHands.eq_of_sending sending]
  exact List.mem_singleton_self event

/-- An event is at one place at most. -/
theorem Accounted.place_unique (accounted : Accounted state held) {first second : Place}
    (here : state.At event first) (there : state.At event second) : first = second := by
  cases first with
  | queued =>
      cases second with
      | queued => rfl
      | inHandsOf client => exact absurd here (accounted.held_not_queued (accounted.mem_held there))
      | writtenTo client =>
          obtain ⟨write, inside, -, -, rfl⟩ := mem_writtenTo.mp there
          exact absurd here (accounted.disjoint inside).2
  | inHandsOf client =>
      have held := accounted.mem_held here
      cases second with
      | queued => exact absurd there (accounted.held_not_queued held)
      | inHandsOf other =>
          have owner := accounted.owned.of_sending here
          rw [Option.some.inj (owner.symm.trans (accounted.owned.of_sending there))]
      | writtenTo other =>
          obtain ⟨write, inside, -, -, rfl⟩ := mem_writtenTo.mp there
          exact absurd held (accounted.disjoint inside).1
  | writtenTo client =>
      obtain ⟨write, inside, rfl, -, rfl⟩ := mem_writtenTo.mp here
      cases second with
      | queued => exact absurd there (accounted.disjoint inside).2
      | inHandsOf other => exact absurd (accounted.mem_held there) (accounted.disjoint inside).1
      | writtenTo other =>
          obtain ⟨write', inside', rfl, -, same⟩ := mem_writtenTo.mp there
          rw [accounted.write_unique inside inside' same.symm]

/-- The events that are at no place are those whose write failed. -/
theorem Accounted.place_exists (accounted : Accounted state held)
    (succeeded : ¬ state.HasFailedWrite) (inside : event ∈ state.arrived.zipIdx) :
    ∃ place, state.At event place := by
  rw [accounted.ledger, List.mem_append, List.mem_append] at inside
  obtain (written | inHands) | queued := inside
  · obtain ⟨write, inside, rfl⟩ := List.mem_map.mp written
    refine ⟨.writtenTo write.client, mem_writtenTo.mpr ⟨write, inside, rfl, ?_, rfl⟩⟩
    by_contra failed
    exact succeeded ⟨write, inside, by simpa using failed⟩
  · cases accounted.inHands with
    | none idle => cases inHands
    | @one client sent sender =>
        obtain rfl := List.mem_singleton.mp inHands
        exact ⟨.inHandsOf client, (sender client event).mpr ⟨rfl, rfl⟩⟩
  · exact ⟨.queued, queued⟩

/-- An event whose write failed is at no place. -/
theorem Accounted.no_place (accounted : Accounted state held) {write : EventWrite}
    (inside : write ∈ state.writes) (failed : write.succeeded = false) (place : Place) :
    ¬ state.At write.event place := by
  intro here
  cases place with
  | queued => exact (accounted.disjoint inside).2 here
  | inHandsOf client => exact (accounted.disjoint inside).1 (accounted.mem_held here)
  | writtenTo client =>
      obtain ⟨write', inside', -, succeeded, same⟩ := mem_writtenTo.mp here
      rw [accounted.write_unique inside' inside same, failed] at succeeded
      contradiction

theorem Accounted.conserved_iff (accounted : Accounted state held) :
    state.Conserved ↔ ¬ state.HasFailedWrite := by
  constructor
  · rintro conserved ⟨write, inside, failed⟩
    have arrived : write.event ∈ state.arrived.zipIdx := by
      rw [accounted.ledger, List.mem_append, List.mem_append]
      exact .inl (.inl (List.mem_map_of_mem inside))
    obtain ⟨place, here, -⟩ := conserved.placed write.event arrived
    exact accounted.no_place inside failed place here
  · intro succeeded
    constructor
    · intro event inside
      obtain ⟨place, here⟩ := accounted.place_exists succeeded inside
      exact ⟨place, here, fun other there => accounted.place_unique there here⟩
    · exact List.Nodup.of_append_right accounted.nodup
    · intro client
      have written := (List.pairwise_append.mp (List.pairwise_append.mp accounted.ordered).1).1
      exact written.sublist (List.filter_sublist.map EventWrite.event)

end Conservation

/-- Over every run that keeps within the limit: the queue loses and repeats nothing exactly
when no write of an event has failed. -/
theorem events_conserved_iff {actions : List EventAction} {state : EventState}
    (within : Along eventStep WithinLimit {} actions)
    (ran : run eventStep {} actions = some state) :
    state.Conserved ↔ ∀ client, .writeEvent client false ∉ actions := by
  obtain ⟨held, accounted⟩ := Accounted.run within ran
  have fresh : ¬ EventState.HasFailedWrite {} := by simp [EventState.HasFailedWrite]
  rw [accounted.conserved_iff, hasFailedWrite_iff Accounted.initial.owned ran, or_iff_right fresh,
    not_exists]

/-- The log of writes only grows. -/
theorem writes_kept {actions : List EventAction} {start state : EventState} (owned : start.Owned)
    (ran : run eventStep start actions = some state) {write : EventWrite}
    (inside : write ∈ start.writes) : write ∈ state.writes := by
  refine (run_preserves (fun state => state.Owned ∧ write ∈ state.writes)
    (fun before action after ⟨owned, inside⟩ taken => ⟨owned.step taken, ?_⟩)
    ⟨owned, inside⟩ ran).2
  cases eventStep_cases owned taken with
  | quiet quiet _ noWrite => exact quiet.writes ▸ inside
  | arrives free => exact inside
  | take phase queue => exact inside
  | written phase => exact List.mem_append_left _ inside
  | lost phase => exact List.mem_append_left _ inside

/-- An event whose write failed does not come back, whatever happens next. -/
theorem failed_event_gone {earlier later : List EventAction} {state final : EventState}
    (within : Along eventStep WithinLimit {} (earlier ++ later))
    (ran : run eventStep {} earlier = some state) (on : run eventStep state later = some final)
    {write : EventWrite} (inside : write ∈ state.writes) (failed : write.succeeded = false)
    (place : Place) : ¬ final.At write.event place := by
  have whole : run eventStep {} (earlier ++ later) = some final := by
    rw [run_append, ran]
    exact on
  obtain ⟨held, accounted⟩ := Accounted.run within whole
  have owned : state.Owned := run_preserves EventState.Owned
    (fun _ _ _ owned taken => owned.step taken) Accounted.initial.owned ran
  exact accounted.no_place (writes_kept owned on inside) failed place

/-! ## A client that goes away -/

def raceEvent : JVEvent where
  type := "JVEvtPay"
  param := "202401060611"
  timestamp := 100

/-- A client connects, an event arrives, and the client is sent it. -/
def delivery (succeeded : Bool) : List EventAction :=
  [.provide 0, .greet 0 true, .arrives 1 raceEvent.param 100, .loop 0, .acquire 0, .check 0 false,
    .drain 0, .writeEvent 0 succeeded]

theorem delivery_within (succeeded : Bool) : Along eventStep WithinLimit {} (delivery succeeded) := by
  cases succeeded <;> decide +kernel

/-- The client goes away during the write. -/
theorem interrupted_delivery_loses :
    Along eventStep WithinLimit {} (delivery false) ∧
    ∃ state, run eventStep {} (delivery false) = some state ∧ state.arrived = [raceEvent] ∧
      (∀ place, ¬ state.At (raceEvent, 0) place) ∧ ¬ state.Conserved := by
  obtain ⟨state, ran, arrived, written⟩ : ∃ state, run eventStep {} (delivery false) = some state ∧
      state.arrived = [raceEvent] ∧ state.writes = [⟨0, false, raceEvent, 0⟩] :=
    ⟨_, rfl, rfl, rfl⟩
  obtain ⟨held, accounted⟩ := Accounted.run (delivery_within false) ran
  have lost : ⟨0, false, raceEvent, 0⟩ ∈ state.writes := by simp [written]
  refine ⟨delivery_within false, state, ran, arrived, fun place => ?_, fun conserved => ?_⟩
  · exact accounted.no_place lost rfl place
  · exact accounted.conserved_iff.mp conserved ⟨_, lost, rfl⟩

theorem delivery_conserves :
    ∃ state, run eventStep {} (delivery true) = some state ∧
      (state.Conserved ↔ ∀ client, .writeEvent client false ∉ delivery true) :=
  ⟨_, rfl, events_conserved_iff (delivery_within true) rfl⟩

end JVLinkServer.Worker
