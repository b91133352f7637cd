import JVLinkServer.Client.EventStreams

namespace JVLinkServer.Client

open AsyncGenerators Coroutines Effects

/-! # What a watch releases

Closing the stream that a watch gave out does not reach the generator that owns the
response.  The response is closed if that generator had ended or was never started, or when
the event loop comes to it while the watch awaits the request to stop.
-/

variable {python : PythonStr} {library : PythonLibrary}

/-! ## The events of a stream -/

section Events

variable (library)

/-- The events that lines carry up to where reading them ends. -/
def eventsOf : List Bytes → Option Bytes → List Json
  | [], _ => []
  | line :: lines, eventType =>
      if line.isEmpty then eventsOf lines eventType
      else if utf8 "event:" <+: line then eventsOf lines (some (strip (line.drop 6)))
      else if ¬ utf8 "data:" <+: line then eventsOf lines eventType
      else if eventType = some (utf8 "connected") then eventsOf lines none
      else if eventType = some (utf8 "jvlink_event") then
        match library.loads (strip (line.drop 5)) with
        | .ok event => event :: eventsOf lines none
        | .error (.jsonDecodeError _) => eventsOf lines none
        | .error _ => []
      else eventsOf lines eventType

/-- The events of a source: none if its response is never read. -/
def EventSource.events (source : EventSource) (lines : List Bytes) : List Json :=
  match source.clientOpen, source.request with
  | true, .ok 200 => eventsOf library lines none
  | _, _ => []

end Events

variable (library) in
/-- A turn of the loop over some lines comes to the first of the events, or to the end. -/
def TurnsTo (lines : List Bytes) (turn : EventPull Json × List Bytes × Option Bytes) :
    List Json → Prop
  | [] => turn.1.isYield = false
  | event :: events => ∃ later, turn = (.yields event, later, none) ∧
      later.length < lines.length ∧ eventsOf library later none = events

theorem TurnsTo.skip {line : Bytes} {lines : List Bytes} {events : List Json}
    {turn : EventPull Json × List Bytes × Option Bytes} (turns : TurnsTo library lines turn events) :
    TurnsTo library (line :: lines) turn events := by
  cases events with
  | nil => exact turns
  | cons event events =>
      obtain ⟨later, called, shorter, same⟩ := turns
      exact ⟨later, called, Nat.lt_succ_of_lt shorter, same⟩

variable (library) in
theorem nextEvent_turns (ending : Option (Raised HttpxException)) (lines : List Bytes)
    (eventType : Option Bytes) :
    TurnsTo library lines (nextEvent library ending lines eventType)
      (eventsOf library lines eventType) := by
  induction lines generalizing eventType with
  | nil => cases ending <;> exact rfl
  | cons line lines ih =>
      simp only [eventsOf, nextEvent]
      split
      · exact (ih eventType).skip
      · split
        · exact (ih _).skip
        · split
          · exact (ih eventType).skip
          · split
            · exact (ih none).skip
            · split
              · cases loaded : library.loads (strip (line.drop 5)) with
                | ok event => exact ⟨lines, rfl, Nat.lt_succ_self _, rfl⟩
                | error exception =>
                    cases exception with
                    | jsonDecodeError message => exact (ih none).skip
                    | _ => exact rfl
              · exact (ih eventType).skip

/-! ## The generator that owns the response -/

theorem convertEventException_isYield (pulled : EventPull Json) :
    (convertEventException pulled).isYield = pulled.isYield := by
  unfold convertEventException
  split
  · split
    · rfl
    · split
      · rfl
      · split
        · rfl
        · split <;> rfl
  · rfl

/-- Every way out of the response but a `yield` closes it. -/
theorem leaveResponse_stops (pulled : EventPull Json) (stops : pulled.isYield = false)
    (stream : EventStream) :
    (leaveResponse (pulled, stream)).1.isYield = false ∧
      (leaveResponse (pulled, stream)).2 = stream.close := by
  cases pulled with
  | yields event => cases stops
  | ends => cases closing : stream.source.closing <;> simp [leaveResponse, closing, Pulled.isYield]
  | raises raised =>
      cases closing : stream.source.closing <;> simp [leaveResponse, closing, Pulled.isYield]

theorem next_event {stream : EventStream} {event : Json} {events : List Json}
    (found : eventsOf library stream.lines stream.eventType = event :: events) :
    ∃ later, stream.next library = (.yields event, { stream with lines := later, eventType := none }) ∧
      later.length < stream.lines.length ∧ eventsOf library later none = events := by
  have turns := nextEvent_turns library stream.source.ending stream.lines
    stream.eventType
  rw [found] at turns
  obtain ⟨later, called, shorter, same⟩ := turns
  refine ⟨later, ?_, shorter, same⟩
  simp only [EventStream.next, called, leaveResponse, convertEventException]

theorem next_end {stream : EventStream}
    (none : eventsOf library stream.lines stream.eventType = []) :
    (stream.next library).1.isYield = false ∧ (stream.next library).2.response.closed = true := by
  have turns := nextEvent_turns library stream.source.ending stream.lines
    stream.eventType
  rw [none] at turns
  have stops : (nextEvent library stream.source.ending stream.lines stream.eventType).1.isYield =
    false := turns
  obtain ⟨left, closed⟩ := leaveResponse_stops _ stops
    { stream with
      lines := (nextEvent library stream.source.ending stream.lines stream.eventType).2.1
      eventType := (nextEvent library stream.source.ending stream.lines stream.eventType).2.2 }
  refine ⟨(convertEventException_isYield _).trans left, ?_⟩
  simp only [EventStream.next, closed]
  rfl

/-- The response of the innermost generator. -/
def ownReleased (outer : Frame × EventStream) : Prop := outer.2.response.Released

/-- Only at a `yield` is a response open. -/
def Orderly (outer : Frame × EventStream) : Prop := outer.1 ≠ .suspended → ownReleased outer

theorem next_stops (stream : EventStream) (stops : (stream.next library).1.isYield = false) :
    (stream.next library).2.response.closed = true := by
  unfold EventStream.next at stops ⊢
  dsimp only at stops ⊢
  rw [convertEventException_isYield] at stops
  generalize nextEvent library stream.source.ending stream.lines stream.eventType = turn at *
  obtain ⟨pulled, lines, eventType⟩ := turn
  cases pulled with
  | yields event => cases stops
  | ends => rfl
  | raises raised => rfl

theorem begin_stops (stream : EventStream) (released : stream.response.Released)
    (stops : (stream.begin library).1.isYield = false) :
    (stream.begin library).2.response.Released := by
  unfold EventStream.begin at stops ⊢
  cases clientOpen : stream.source.clientOpen with
  | false => simpa [clientOpen] using released
  | true =>
      simp only [clientOpen, if_true] at stops ⊢
      cases request : stream.source.request with
      | error raised => exact released
      | ok status =>
          simp only [request] at stops ⊢
          by_cases success : status = 200
          · rw [if_pos success] at stops ⊢
            exact fun _ => next_stops _ stops
          · rw [if_neg success]
            intro _
            cases stream.source.closing <;> rfl

theorem orderly_settle {turn : EventPull Json × EventStream}
    (stops : turn.1.isYield = false → turn.2.response.Released) : Orderly (settle turn).2 := by
  obtain ⟨pulled, stream⟩ := turn
  cases pulled with
  | yields event => exact fun suspended => absurd rfl suspended
  | ends => exact fun _ => stops rfl
  | raises raised => exact fun _ => stops rfl

/-- Every call of the generator keeps this. -/
theorem streamEvents_orderly (outer : Frame × EventStream) (orderly : Orderly outer) :
    Orderly ((HttpTransport.streamEvents library).anext outer).2 := by
  obtain ⟨frame, stream⟩ := outer
  cases frame with
  | created => exact orderly_settle (begin_stops stream (orderly (by simp)))
  | suspended => exact orderly_settle fun stops _ => next_stops stream stops
  | finished => exact orderly

/-- Closing the generator itself releases its response. -/
theorem streamEvents_aclose (outer : Frame × EventStream) (orderly : Orderly outer) :
    ownReleased ((HttpTransport.streamEvents library).aclose outer) := by
  obtain ⟨frame, stream⟩ := outer
  cases frame with
  | created => exact orderly (by simp)
  | suspended => exact fun _ => rfl
  | finished => exact orderly (by simp)

/-- A call that ends the generator. -/
theorem streamEvents_stops {outer : Frame × EventStream} {turn : EventPull Json × EventStream}
    (called : (HttpTransport.streamEvents library).anext outer = settle turn)
    (stops : turn.1.isYield = false) (released : turn.2.response.Released) :
    Feeds (HttpTransport.streamEvents library) linesLeft ownReleased outer [] true := by
  obtain ⟨pulled, after⟩ := turn
  cases pulled with
  | yields event => cases stops
  | ends => exact .ends called rfl generator_anext_finished (iff_of_true released rfl)
  | raises raised => exact .ends called rfl generator_anext_finished (iff_of_true released rfl)

/-- From a call that goes on inside the response. -/
theorem streamEvents_feeds {outer : Frame × EventStream} {stream : EventStream}
    {events : List Json}
    (called : (HttpTransport.streamEvents library).anext outer = settle (stream.next library))
    (size : linesLeft outer = stream.lines.length)
    (found : eventsOf library stream.lines stream.eventType = events)
    (entered : stream.response.entered = true) (unclosed : stream.response.closed = false) :
    Feeds (HttpTransport.streamEvents library) linesLeft ownReleased outer events true := by
  induction events generalizing outer stream with
  | nil =>
      obtain ⟨stops, closed⟩ := next_end found
      exact streamEvents_stops called stops fun _ => closed
  | cons event events ih =>
      obtain ⟨later, next, shorter, same⟩ := next_event found
      rw [next] at called
      refine .yields called (fun released => ?_) (size ▸ shorter)
        (ih rfl rfl same entered unclosed)
      exact absurd (released entered) (by simp [unclosed])

/-- The generator of a stream that was not started. -/
def EventStream.created (source : EventSource) (lines : List Bytes) : Frame × EventStream :=
  (.created, { source, lines })

variable (library) in
theorem created_feeds (source : EventSource) (lines : List Bytes) :
    Feeds (HttpTransport.streamEvents library) linesLeft ownReleased
      (EventStream.created source lines) (source.events library lines) true := by
  have called : (HttpTransport.streamEvents library).anext (EventStream.created source lines) =
    settle (EventStream.begin library { source, lines }) := rfl
  have unopened : ({} : ResponseState).Released := by simp [ResponseState.Released]
  unfold EventStream.begin at called
  cases clientOpen : source.clientOpen with
  | false =>
      simp only [clientOpen, Bool.false_eq_true, if_false] at called
      simp only [EventSource.events, clientOpen]
      exact streamEvents_stops called rfl unopened
  | true =>
      simp only [clientOpen, if_true] at called
      cases request : source.request with
      | error raised =>
          simp only [request] at called
          simp only [EventSource.events, clientOpen, request]
          exact streamEvents_stops called (convertEventException_isYield _) unopened
      | ok status =>
          simp only [request] at called
          by_cases success : status = 200
          · subst success
            simp only [if_true] at called
            simp only [EventSource.events, clientOpen, request]
            exact streamEvents_feeds called rfl rfl rfl rfl
          · simp only [success, if_false] at called
            have none : source.events library lines = [] := by
              unfold EventSource.events
              rw [clientOpen, request]
              split
              · next same => cases same; exact absurd rfl success
              · rfl
            rw [none]
            obtain ⟨stops, closed⟩ := leaveResponse_stops (.raises (.error (.jvLink
              { cls := .serverError
                message := utf8 "Failed to connect to event stream: " ++ decimalNat status })))
              rfl { source, lines, response := { entered := true } }
            refine streamEvents_stops called ((convertEventException_isYield _).trans stops) ?_
            rw [closed]
            exact fun _ => rfl

/-! ## Watches -/

section Watches

variable {σ α : Type} {stream : AsyncIterator σ (Raised PythonException) α}
  {outcomes : WatchOutcomes} {body : WatchBody} {state : WatchState σ}

/-- Nothing but a cancellation of the closing keeps a watch from being stopped. -/
def WatchOutcomes.stops (outcomes : WatchOutcomes) : Nat :=
  match outcomes.closing with
  | .error .cancelled => 0
  | _ => 1

variable {collect : Nat → σ → σ}

theorem finalState_endWatch :
    (finalState (endWatch outcomes collect stream state)).stopCalls =
        state.stopCalls + outcomes.stops ∧
      (outcomes.stops = 1 → (finalState (endWatch outcomes collect stream state)).stream =
        collect outcomes.collected (stream.aclose state.stream)) := by
  unfold endWatch WatchOutcomes.stops
  cases outcomes.closing with
  | ok value =>
      cases stopped : outcomes.stop with
      | ok value => simp only [stopEventWatch, stopped]; exact ⟨rfl, fun _ => rfl⟩
      | error raised =>
          cases raised <;> simp only [stopEventWatch, stopped] <;> exact ⟨rfl, fun _ => rfl⟩
  | error raised =>
      cases raised with
      | cancelled => exact ⟨rfl, fun stopped => by cases stopped⟩
      | error exception =>
          cases stopped : outcomes.stop with
          | ok value => simp only [stopEventWatch, stopped]; exact ⟨rfl, fun _ => rfl⟩
          | error raised =>
              cases raised <;> simp only [stopEventWatch, stopped] <;> exact ⟨rfl, fun _ => rfl⟩

theorem finalState_watch :
    finalState (watch { outcomes with start := .ok () } collect stream body state) =
      finalState (endWatch outcomes collect stream
        { state with stream := stream.after body.calls state.stream }) := by
  unfold watch
  rw [bind_of_ok (comesTo_ok ()), finalState_finishing]
  cases body.outcome <;> rfl

theorem stops_eq_one : outcomes.stops = 1 ↔ outcomes.closing ≠ .error .cancelled := by
  unfold WatchOutcomes.stops
  split
  · next cancelled => simp [cancelled]
  · next other => simpa using fun same => other same

/-- The watch was stopped once, and the response that was opened is closed. -/
def Releases (response : σ → ResponseState)
    (result : EStateM.Result (Raised PythonException) (WatchState σ) Unit) : Prop :=
  (finalState result).stopCalls = 1 ∧ (response (finalState result).stream).Released

/-- A watch that is stopped leaves what the event loop has made of its stream. -/
theorem watch_releases {response : σ → ResponseState} (fresh : state.stopCalls = 0) :
    Releases response (watch { outcomes with start := .ok () } collect stream body state) ↔
      outcomes.closing ≠ .error .cancelled ∧
        (response (collect outcomes.collected
          (stream.aclose (stream.after body.calls state.stream)))).Released := by
  unfold Releases
  rw [finalState_watch]
  generalize ended : endWatch outcomes collect stream
    { state with stream := stream.after body.calls state.stream } = result
  obtain ⟨called, left⟩ := ended ▸ finalState_endWatch
  have once : (finalState result).stopCalls = 1 ↔ outcomes.closing ≠ .error .cancelled := by
    rw [called, fresh, Nat.zero_add, stops_eq_one]
  rw [once]
  exact and_congr_right fun closed => by rw [left (stops_eq_one.mpr closed)]

end Watches

section Released

variable {outcomes : WatchOutcomes} {body : WatchBody} {source : EventSource}
  {lines : List Bytes}

/-- The generators behind a watch before their first call. -/
def rawCreated (source : EventSource) (lines : List Bytes) :
    WatchState (Frame × (Frame × EventStream)) :=
  { stream := (.created, EventStream.created source lines) }

def decodedCreated (source : EventSource) (lines : List Bytes) :
    WatchState (Frame × (Frame × (Frame × EventStream))) :=
  { stream := (.created, .created, EventStream.created source lines) }

theorem unopened_released : ownReleased (EventStream.created source lines) := by
  simp [ownReleased, EventStream.created, ResponseState.Released]

theorem converted_all (events : List Json) :
    converted (fun event => (.ok (some event) : Except (Raised PythonException) (Option Json)))
      events = (events, true) := by
  induction events with
  | nil => rfl
  | cons event events ih => simp [converted, ih]

theorem streamEventsRaw_feeds :
    Feeds (streamEventsRaw library) (fun outer => linesLeft outer.2)
      (fun outer => ownReleased outer.2) (.created, EventStream.created source lines)
      (source.events library lines) true := by
  have live : Frame.created ≠ .finished := by simp
  have feeds := (created_feeds library source lines).relaying
    (fun event => .ok (some event)) live
  rwa [converted_all] at feeds

theorem created_orderly : Orderly (EventStream.created source lines) := fun _ => unopened_released

/-- The calls of the streams of the client keep the innermost generator orderly. -/
theorem streamEventsRaw_orderly (outer : Frame × (Frame × EventStream))
    (orderly : Orderly outer.2) :
    Orderly ((streamEventsRaw library).anext outer).2.2 :=
  relaying_keeps streamEvents_orderly outer orderly

variable (library source lines) in
theorem raw_orderly (calls : List AsyncIterator.Call) :
    Orderly ((streamEventsRaw library).after calls
      (.created, EventStream.created source lines)).2 := by
  have closes (outer : Frame × (Frame × EventStream)) (orderly : Orderly outer.2) :
      Orderly ((streamEventsRaw library).aclose outer).2 := by
    rw [streamEventsRaw, relaying_aclose]
    exact orderly
  exact AsyncIterator.after_keeps streamEventsRaw_orderly closes calls created_orderly

variable (python library source lines) in
theorem decoded_orderly (calls : List AsyncIterator.Call) :
    Orderly ((streamEvents python library).after calls
      (.created, .created, EventStream.created source lines)).2.2 := by
  have goesOn (outer : Frame × (Frame × (Frame × EventStream))) (orderly : Orderly outer.2.2) :
      Orderly ((streamEvents python library).anext outer).2.2.2 :=
    relaying_keeps streamEventsRaw_orderly outer orderly
  have closes (outer : Frame × (Frame × (Frame × EventStream))) (orderly : Orderly outer.2.2) :
      Orderly ((streamEvents python library).aclose outer).2.2 := by
    rw [streamEvents, relaying_aclose]
    exact orderly
  exact AsyncIterator.after_keeps goesOn closes calls created_orderly

variable (outcomes) in
theorem raw_releases_iff :
    Releases (fun stream => stream.2.2.response)
        (watchEventsRaw library { outcomes with start := .ok () } body (rawCreated source lines)) ↔
      outcomes.closing ≠ .error .cancelled ∧
        (1 ≤ outcomes.collected ∨ pulls body.calls = 0 ∨
          (source.events library lines).length < pulls body.calls) := by
  refine (watch_releases rfl).trans (and_congr_right fun _ => ?_)
  cases outcomes.collected with
  | zero =>
      refine (relaying_idle_iff ownReleased streamEventsRaw_feeds unopened_released
        body.calls).trans ?_
      simp
  | succ count =>
      refine iff_of_true ?_ (.inl (Nat.succ_pos count))
      have orderly := raw_orderly library source lines body.calls
      rw [streamEventsRaw] at orderly ⊢
      rw [relaying_aclose]
      exact streamEvents_aclose _ orderly

variable (python) in
/-- The events that are decoded. -/
def decodedEvents (events : List Json) : List JVLinkEvent :=
  events.filterMap fun event => (decodeItem python event).toOption.join

/-- Only an event that is no object fails to be decoded. -/
theorem decodeItem_succeeds {event : Json} :
    (∃ value, decodeItem python event = .ok value) ↔ event.isObject = true := by
  cases event with
  | object members =>
      refine iff_of_true ?_ rfl
      simp only [decodeItem, decodeEvent, getMember, raising, bind, Except.bind]
      split <;> exact ⟨_, rfl⟩
  | _ => simp [decodeItem, decodeEvent, getMember, raising, bind, Except.bind, Json.isObject]

theorem streamEvents_feeds_decoded :
    Feeds (streamEvents python library) (fun outer => linesLeft outer.2.2)
      (fun outer => ownReleased outer.2.2) (.created, .created, EventStream.created source lines)
      (converted (decodeItem python) (source.events library lines)).1
      (converted (decodeItem python) (source.events library lines)).2 := by
  have live : Frame.created ≠ .finished := by simp
  exact streamEventsRaw_feeds.relaying (decodeItem python) live

variable (python library source lines) in
/-- Without the event loop, the response is closed if the events have been gone through. -/
theorem decoded_idle_iff (calls : List AsyncIterator.Call) :
    ownReleased ((streamEvents python library).aclose ((streamEvents python library).after calls
        (.created, .created, EventStream.created source lines))).2.2 ↔
      pulls calls = 0 ∨
        (∀ event ∈ source.events library lines, event.isObject = true) ∧
          (decodedEvents python (source.events library lines)).length < pulls calls := by
  refine (relaying_idle_iff (fun inner : Frame × (Frame × EventStream) => ownReleased inner.2)
    streamEvents_feeds_decoded unopened_released calls).trans (or_congr Iff.rfl ?_)
  have whole : (converted (decodeItem python) (source.events library lines)).2 = true ↔
      ∀ event ∈ source.events library lines, event.isObject = true := by
    simp only [converted_whole, decodeItem_succeeds]
  rw [and_comm, whole]
  refine and_congr_right fun objects => ?_
  rw [converted_values (whole.mpr objects)]
  exact Iff.rfl

variable (outcomes) in
theorem decoded_releases_iff :
    Releases (fun stream => stream.2.2.2.response)
        (watchEvents python library { outcomes with start := .ok () } body
          (decodedCreated source lines)) ↔
      outcomes.closing ≠ .error .cancelled ∧
        (2 ≤ outcomes.collected ∨ pulls body.calls = 0 ∨
          (∀ event ∈ source.events library lines, event.isObject = true) ∧
            (decodedEvents python (source.events library lines)).length < pulls body.calls) := by
  refine (watch_releases rfl).trans (and_congr_right fun _ => ?_)
  have idle := decoded_idle_iff python library source lines body.calls
  have orderly := decoded_orderly python library source lines body.calls
  unfold decodedCreated
  rw [streamEvents] at idle orderly ⊢
  rw [relaying_aclose] at idle ⊢
  generalize (relaying (decodeItem python) (streamEventsRaw library) _).after body.calls _ = left
    at *
  cases outcomes.collected with
  | zero =>
      refine idle.trans ?_
      simp
  | succ count =>
      have first : collectDecoded library (count + 1) (.finished, left.2) =
          (.finished, collectRaw library count (.finished, left.2.2)) := by
        rw [collectDecoded, finalized, streamEventsRaw, relaying_aclose]
      rw [first]
      cases count with
      | zero =>
          refine idle.trans ?_
          simp
      | succ count =>
          refine iff_of_true (streamEvents_aclose _ orderly) (.inl ?_)
          omega

end Released

/-- Both watches release what they opened if and only if closing the stream is not cancelled
and one of three: the event loop comes to close the generator that owns the response, the
body asked for no event, or it went past the last one (for the raw stream past the events of
the transport, for the other past those that are decoded, if all can be). -/
theorem watch_releases_iff (python : PythonStr) (library : PythonLibrary)
    (outcomes : WatchOutcomes) (body : WatchBody) (source : EventSource) (lines : List Bytes) :
    (Releases (fun stream => stream.2.2.response)
        (watchEventsRaw library { outcomes with start := .ok () } body (rawCreated source lines)) ↔
      outcomes.closing ≠ .error .cancelled ∧
        (1 ≤ outcomes.collected ∨ pulls body.calls = 0 ∨
          (source.events library lines).length < pulls body.calls)) ∧
    (Releases (fun stream => stream.2.2.2.response)
        (watchEvents python library { outcomes with start := .ok () } body
          (decodedCreated source lines)) ↔
      outcomes.closing ≠ .error .cancelled ∧
        (2 ≤ outcomes.collected ∨ pulls body.calls = 0 ∨
          (∀ event ∈ source.events library lines, event.isObject = true) ∧
            (decodedEvents python (source.events library lines)).length < pulls body.calls)) :=
  ⟨raw_releases_iff outcomes, decoded_releases_iff outcomes⟩

/-- A stream of one event, of which there is more to come. -/
def oneEvent : List Bytes :=
  [utf8 "event: jvlink_event", utf8 "data: \x7b\"type\":\"JVEvtPay\",\"param\":\"2024\"\x7d", []]

/-- A cancellation comes out of the closing of the stream. -/
def closeCancelled : WatchOutcomes where
  closing := .error .cancelled

/-- It comes out of the first await behind that, before the event loop has gone on. -/
def stopCancelled : WatchOutcomes where
  stop := .error .cancelled
  collected := 0

/-- The body takes an event and is left with a cancellation under way: either the watch is not
stopped, or its response stays open. -/
theorem cancelled_watch_unreleased :
    (¬ Releases (fun stream => stream.2.2.response)
        (watchEventsRaw plainLibrary closeCancelled { calls := [.anext] } (rawCreated {} oneEvent)) ∧
      ¬ Releases (fun stream => stream.2.2.2.response)
        (watchEvents plainText plainLibrary closeCancelled { calls := [.anext] }
          (decodedCreated {} oneEvent))) ∧
    ¬ Releases (fun stream => stream.2.2.response)
        (watchEventsRaw plainLibrary stopCancelled { calls := [.anext] } (rawCreated {} oneEvent)) ∧
      ¬ Releases (fun stream => stream.2.2.2.response)
        (watchEvents plainText plainLibrary stopCancelled { calls := [.anext] }
          (decodedCreated {} oneEvent)) := by
  have events : (EventSource.events plainLibrary {} oneEvent).length = 1 := by decide +kernel
  have decoded : (decodedEvents plainText (EventSource.events plainLibrary {} oneEvent)).length =
    1 := by decide +kernel
  have once : pulls [.anext] = 1 := rfl
  refine ⟨⟨fun releases => ?_, fun releases => ?_⟩, fun releases => ?_, fun releases => ?_⟩
  · exact ((raw_releases_iff closeCancelled).mp releases).1 rfl
  · exact ((decoded_releases_iff closeCancelled).mp releases).1 rfl
  · have past := ((raw_releases_iff stopCancelled).mp releases).2
    simp [events, once, stopCancelled] at past
  · have past := ((decoded_releases_iff stopCancelled).mp releases).2
    simp [decoded, once, stopCancelled] at past

end JVLinkServer.Client
