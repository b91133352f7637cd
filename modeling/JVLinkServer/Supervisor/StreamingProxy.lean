import JVLinkServer.Transition
import JVLinkServer.Http.Headers

namespace JVLinkServer.Supervisor

open Transition Http

/-! # The streaming proxy

`proxyStreamingRequest` runs two threads on one `StreamingProxyState`: the reader
sends the request to the worker and queues what comes back, the handler thread
writes the queue to the client.  Every access to the state is under its mutex, so
each critical section is one step.
-/

/-- `httplib::Error` -/
inductive HttpError
  | success
  | unknown
  | connection
  | bindIPAddress
  | read
  | write
  | exceedRedirectCount
  | canceled
  | sslConnection
  | sslLoadingCerts
  | sslServerVerification
  | sslServerHostnameVerification
  | unsupportedMultipartBoundaryChars
  | compression
  | connectionTimeout
  | proxyConnection
  deriving DecidableEq, Repr

/-- The status line and header fields of a worker response. -/
structure UpstreamHead where
  status : Int
  headers : Headers
  deriving DecidableEq, Repr

structure StreamingProxyState where
  chunks : List Bytes := []
  headersReady : Bool := false
  finished : Bool := false
  downstreamCanceled : Bool := false
  transportFailed : Bool := false
  upstreamStatus : Int := 0
  upstreamHeaders : Headers := []
  contentType : Bytes := utf8 "application/octet-stream"
  transportError : HttpError := .unknown
  shouldRestart : Bool := false
  restartReason : String := ""
  deriving DecidableEq, Repr

/-- A worker answer that reports JV-Link as unavailable. -/
def UpstreamHead.unavailable (head : UpstreamHead) : Bool :=
  head.status == 503 && head.headers.value "X-JVLink-Unavailable" == utf8 "1"

namespace StreamingProxyState

/-- The `response_handler` of the upstream request. -/
def responseHandler (state : StreamingProxyState) (operation : String) (head : UpstreamHead) :
    StreamingProxyState :=
  let state :=
    { state with
      upstreamStatus := head.status
      upstreamHeaders := head.headers
      contentType := head.headers.value "Content-Type" "application/octet-stream"
      headersReady := true }
  if head.unavailable then
    { state with
      shouldRestart := true
      restartReason := "worker reported unavailable for " ++ operation }
  else
    state

/-- The `content_receiver` of the upstream request: `none` aborts the transfer. -/
def contentReceiver (state : StreamingProxyState) (data : Bytes) : Option StreamingProxyState :=
  if state.downstreamCanceled then none else some { state with chunks := state.chunks ++ [data] }

/-- The last critical section of the reader, after `client.send` has returned.
A failure is an error code. -/
def finish (state : StreamingProxyState) (operation : String) (failure : Option HttpError) :
    StreamingProxyState :=
  let state := { state with finished := true }
  match failure with
  | none => state
  | some error =>
      if state.downstreamCanceled && error == .canceled then state
      else
        let state := { state with transportFailed := true, transportError := error }
        if state.shouldRestart then state
        else
          { state with
            shouldRestart := true
            restartReason :=
              if !state.headersReady then
                "worker transport failure before streaming headers for " ++ operation
              else
                "worker transport failure during streaming for " ++ operation }

def cancelDownstream (state : StreamingProxyState) : StreamingProxyState :=
  { state with downstreamCanceled := true }

end StreamingProxyState

inductive ReaderPhase
  | sending
  | refused
  | ended (failure : Option HttpError)
  deriving DecidableEq, Repr

/-- What the completion of a stream asks of the worker manager. -/
inductive ManagerCall
  | restart (reason : String)
  | restartIfWorkerUnhealthy (reason : String)
  deriving DecidableEq, Repr

/-- The handler thread: up to the response head it runs `proxyStreamingRequest`
itself, then the content provider, then the completion callback. -/
inductive HandlerPhase
  | waiting
  | joining
  | unavailable (restart : Option String)
  | providing
  | writing (chunk : Bytes)
  | done
  | canceled
  | releasing
  | completed (call : ManagerCall)
  deriving DecidableEq, Repr

/-- `received` and `sent` are the body bytes that the reader was handed and that
went out to the client; `lost` is what a failed write left unsent, and `refused`
what the reader was handed after the client had gone. -/
structure StreamingProxy where
  operation : String
  shared : StreamingProxyState := {}
  reader : ReaderPhase := .sending
  handler : HandlerPhase := .waiting
  received : Bytes := []
  sent : Bytes := []
  lost : Bytes := []
  refused : Bytes := []
  cleanEnd : Bool := false
  deriving DecidableEq, Repr

/-- A write to the client succeeds, or fails with some of the bytes gone out. -/
inductive SinkWrite
  | accepted
  | failed (written : Nat)
  deriving DecidableEq, Repr

inductive ProxyAction
  | response (head : UpstreamHead)
  | content (data : Bytes)
  | sendReturns (failure : Option HttpError)
  | wake
  | joined
  | take
  | write (outcome : SinkWrite)
  | release
  | complete
  deriving DecidableEq, Repr

namespace StreamingProxy

def content (proxy : StreamingProxy) (data : Bytes) : StreamingProxy :=
  match proxy.shared.contentReceiver data with
  | some shared => { proxy with shared, received := proxy.received ++ data }
  | none =>
      { proxy with
        reader := .refused
        received := proxy.received ++ data
        refused := data }

/-- One round of the provider's loop up to the unlock. -/
def take (proxy : StreamingProxy) : Option StreamingProxy :=
  match proxy.shared.chunks with
  | chunk :: rest =>
      some { proxy with
        shared := { proxy.shared with chunks := rest }
        handler := .writing chunk }
  | [] =>
      if proxy.shared.finished then some { proxy with handler := .done, cleanEnd := true }
      else none

def write (proxy : StreamingProxy) (chunk : Bytes) : SinkWrite → StreamingProxy
  | .accepted => { proxy with handler := .providing, sent := proxy.sent ++ chunk }
  | .failed written =>
      { proxy with
        shared := proxy.shared.cancelDownstream
        handler := .canceled
        sent := proxy.sent ++ chunk.take written
        lost := chunk.drop written }

/-- The completion callback after the join. -/
def managerCall (proxy : StreamingProxy) : ManagerCall :=
  if proxy.shared.shouldRestart then .restart proxy.shared.restartReason
  else .restartIfWorkerUnhealthy ("post-stream health check for " ++ proxy.operation)

end StreamingProxy

/-- `client.send` reports `Canceled` exactly when the receiver refused data. -/
def ReaderPhase.returns : ReaderPhase → Option HttpError → Bool
  | .sending, failure => failure != some .canceled
  | .refused, failure => failure == some .canceled
  | .ended _, _ => false

def proxyStep (proxy : StreamingProxy) : ProxyAction → Option StreamingProxy
  | .response head =>
      if proxy.reader = .sending ∧ proxy.shared.headersReady = false then
        some { proxy with shared := proxy.shared.responseHandler proxy.operation head }
      else none
  | .content data =>
      if proxy.reader = .sending ∧ proxy.shared.headersReady = true then
        some (proxy.content data)
      else none
  | .sendReturns failure =>
      if proxy.reader.returns failure then
        some { proxy with
          shared := proxy.shared.finish proxy.operation failure
          reader := .ended failure }
      else none
  | .wake =>
      if proxy.handler = .waiting ∧
          (proxy.shared.headersReady = true ∨ proxy.shared.finished = true) then
        some { proxy with
          handler := if proxy.shared.headersReady then .providing else .joining }
      else none
  | .joined =>
      match proxy.handler, proxy.reader with
      | .joining, .ended _ =>
          some { proxy with
            handler := .unavailable
              (if proxy.shared.shouldRestart then some proxy.shared.restartReason else none) }
      | _, _ => none
  | .take => if proxy.handler = .providing then proxy.take else none
  | .write outcome =>
      match proxy.handler with
      | .writing chunk => some (proxy.write chunk outcome)
      | _ => none
  | .release =>
      -- The response is destroyed, also when the provider was not called again.
      match proxy.handler with
      | .providing | .done | .canceled =>
          some { proxy with
            shared := proxy.shared.cancelDownstream
            handler := .releasing }
      | _ => none
  | .complete =>
      match proxy.handler, proxy.reader with
      | .releasing, .ended _ => some { proxy with handler := .completed proxy.managerCall }
      | _, _ => none

/-! ## The order of bytes -/

def HandlerPhase.inFlight : HandlerPhase → Bytes
  | .writing chunk => chunk
  | _ => []

/-- The phases from which the provider can still write. -/
def HandlerPhase.mayWrite : HandlerPhase → Bool
  | .waiting | .providing | .writing _ => true
  | _ => false

/-- The content provider is running, or may be called. -/
def HandlerPhase.streams : HandlerPhase → Bool
  | .providing | .writing _ => true
  | _ => false

/-- Every received byte is in one place, and the places are in order. -/
structure StreamingProxy.Ordered (proxy : StreamingProxy) : Prop where
  bytes : proxy.received =
    proxy.sent ++ (proxy.lost ++ (proxy.handler.inFlight ++
      (proxy.shared.chunks.flatten ++ proxy.refused)))
  kept : proxy.handler.mayWrite = true → proxy.lost = []
  accepting : proxy.reader = .sending ∨ proxy.reader = .ended none → proxy.refused = []

theorem StreamingProxy.Ordered.initial (operation : String) :
    StreamingProxy.Ordered { operation } := by
  constructor <;> simp [HandlerPhase.inFlight]

section Shared

variable (shared : StreamingProxyState) (operation : String)

@[simp] theorem responseHandler_chunks (head : UpstreamHead) :
    (shared.responseHandler operation head).chunks = shared.chunks := by
  unfold StreamingProxyState.responseHandler
  split <;> rfl

@[simp] theorem responseHandler_headersReady (head : UpstreamHead) :
    (shared.responseHandler operation head).headersReady = true := by
  unfold StreamingProxyState.responseHandler
  split <;> rfl

@[simp] theorem responseHandler_finished (head : UpstreamHead) :
    (shared.responseHandler operation head).finished = shared.finished := by
  unfold StreamingProxyState.responseHandler
  split <;> rfl

@[simp] theorem responseHandler_downstreamCanceled (head : UpstreamHead) :
    (shared.responseHandler operation head).downstreamCanceled = shared.downstreamCanceled := by
  unfold StreamingProxyState.responseHandler
  split <;> rfl

/-- What the end of the transfer leaves alone: all but the verdict on it. -/
theorem finish_keeps (failure : Option HttpError) :
    (shared.finish operation failure).finished = true ∧
      (shared.finish operation failure).chunks = shared.chunks ∧
      (shared.finish operation failure).headersReady = shared.headersReady ∧
      (shared.finish operation failure).downstreamCanceled = shared.downstreamCanceled := by
  cases failure with
  | none => exact ⟨rfl, rfl, rfl, rfl⟩
  | some error =>
      simp only [StreamingProxyState.finish]
      repeat' split
      all_goals exact ⟨rfl, rfl, rfl, rfl⟩

end Shared

/-! ## What a step can do -/

/-- The steps with their guards. -/
inductive ProxyStep (proxy : StreamingProxy) : ProxyAction → StreamingProxy → Prop
  | response {head} (sending : proxy.reader = .sending)
      (first : proxy.shared.headersReady = false) :
      ProxyStep proxy (.response head)
        { proxy with shared := proxy.shared.responseHandler proxy.operation head }
  | queued {data} (sending : proxy.reader = .sending)
      (ready : proxy.shared.headersReady = true)
      (listening : proxy.shared.downstreamCanceled = false) :
      ProxyStep proxy (.content data)
        { proxy with
          shared := { proxy.shared with chunks := proxy.shared.chunks ++ [data] }
          received := proxy.received ++ data }
  | refused {data} (sending : proxy.reader = .sending)
      (ready : proxy.shared.headersReady = true)
      (gone : proxy.shared.downstreamCanceled = true) :
      ProxyStep proxy (.content data)
        { proxy with
          reader := .refused
          received := proxy.received ++ data
          refused := data }
  | sendReturns {failure} (returns : proxy.reader.returns failure = true) :
      ProxyStep proxy (.sendReturns failure)
        { proxy with
          shared := proxy.shared.finish proxy.operation failure
          reader := .ended failure }
  | wakeReady (waiting : proxy.handler = .waiting) (ready : proxy.shared.headersReady = true) :
      ProxyStep proxy .wake { proxy with handler := .providing }
  | wakeFailed (waiting : proxy.handler = .waiting)
      (headless : proxy.shared.headersReady = false) (finished : proxy.shared.finished = true) :
      ProxyStep proxy .wake { proxy with handler := .joining }
  | joined {failure} (joining : proxy.handler = .joining)
      (ended : proxy.reader = .ended failure) :
      ProxyStep proxy .joined
        { proxy with
          handler := .unavailable
            (if proxy.shared.shouldRestart then some proxy.shared.restartReason else none) }
  | takeChunk {chunk rest} (providing : proxy.handler = .providing)
      (queued : proxy.shared.chunks = chunk :: rest) :
      ProxyStep proxy .take
        { proxy with
          shared := { proxy.shared with chunks := rest }
          handler := .writing chunk }
  | takeEnd (providing : proxy.handler = .providing) (empty : proxy.shared.chunks = [])
      (finished : proxy.shared.finished = true) :
      ProxyStep proxy .take { proxy with handler := .done, cleanEnd := true }
  | written {chunk} (writing : proxy.handler = .writing chunk) :
      ProxyStep proxy (.write .accepted)
        { proxy with handler := .providing, sent := proxy.sent ++ chunk }
  | broken {chunk count} (writing : proxy.handler = .writing chunk) :
      ProxyStep proxy (.write (.failed count)) (proxy.write chunk (.failed count))
  | release (completed : proxy.handler = .providing ∨ proxy.handler = .done ∨
        proxy.handler = .canceled) :
      ProxyStep proxy .release
        { proxy with
          shared := proxy.shared.cancelDownstream
          handler := .releasing }
  | complete {failure} (releasing : proxy.handler = .releasing)
      (ended : proxy.reader = .ended failure) :
      ProxyStep proxy .complete { proxy with handler := .completed proxy.managerCall }

theorem proxyStep_cases {proxy next : StreamingProxy} {action : ProxyAction}
    (taken : proxyStep proxy action = some next) : ProxyStep proxy action next := by
  cases action with
  | response head =>
      simp only [proxyStep, Option.ite_none_right_eq_some, Option.some.injEq] at taken
      obtain ⟨⟨sending, first⟩, rfl⟩ := taken
      exact .response sending first
  | content data =>
      simp only [proxyStep, Option.ite_none_right_eq_some, Option.some.injEq] at taken
      obtain ⟨⟨sending, ready⟩, rfl⟩ := taken
      cases gone : proxy.shared.downstreamCanceled with
      | false =>
          simpa [StreamingProxy.content, StreamingProxyState.contentReceiver, gone] using
            ProxyStep.queued sending ready gone
      | true =>
          simpa [StreamingProxy.content, StreamingProxyState.contentReceiver, gone] using
            ProxyStep.refused sending ready gone
  | sendReturns failure =>
      simp only [proxyStep, Option.ite_none_right_eq_some, Option.some.injEq] at taken
      obtain ⟨returns, rfl⟩ := taken
      exact .sendReturns returns
  | wake =>
      simp only [proxyStep, Option.ite_none_right_eq_some, Option.some.injEq] at taken
      obtain ⟨⟨waiting, ready⟩, rfl⟩ := taken
      cases headers : proxy.shared.headersReady with
      | true => exact .wakeReady waiting headers
      | false => exact .wakeFailed waiting headers (by simpa [headers] using ready)
  | joined =>
      simp only [proxyStep] at taken
      split at taken
      · cases taken
        exact .joined ‹_› ‹_›
      · contradiction
  | take =>
      simp only [proxyStep, Option.ite_none_right_eq_some] at taken
      obtain ⟨providing, taken⟩ := taken
      unfold StreamingProxy.take at taken
      split at taken
      next queued =>
        cases taken
        exact .takeChunk providing queued
      next empty =>
        simp only [Option.ite_none_right_eq_some, Option.some.injEq] at taken
        obtain ⟨finished, rfl⟩ := taken
        exact .takeEnd providing empty finished
  | write outcome =>
      simp only [proxyStep] at taken
      split at taken
      next writing =>
        cases taken
        cases outcome with
        | accepted => exact .written writing
        | failed count => exact .broken writing
      next => contradiction
  | release =>
      simp only [proxyStep] at taken
      split at taken
      case h_4 => contradiction
      all_goals
        cases taken
        exact .release (by simp [*])
  | complete =>
      simp only [proxyStep] at taken
      split at taken
      · cases taken
        exact .complete ‹_› ‹_›
      · contradiction

theorem StreamingProxy.Ordered.step {proxy next : StreamingProxy} {action : ProxyAction}
    (ordered : proxy.Ordered) (taken : proxyStep proxy action = some next) : next.Ordered := by
  obtain ⟨bytes, kept, accepting⟩ := ordered
  cases proxyStep_cases taken with
  | response sending first =>
      exact ⟨by simpa using bytes, kept, accepting⟩
  | queued sending ready listening =>
      refine ⟨?_, kept, accepting⟩
      simp [bytes, accepting (.inl sending)]
  | refused sending ready gone =>
      refine ⟨?_, kept, by simp⟩
      simp [bytes, accepting (.inl sending)]
  | sendReturns returns =>
      refine ⟨by simpa [finish_keeps] using bytes, kept, ?_⟩
      rintro (impossible | ended)
      · contradiction
      · cases ended
        refine accepting ?_
        cases phase : proxy.reader <;> simp [phase, ReaderPhase.returns] at returns ⊢
  | wakeReady waiting _ =>
      exact ⟨by simpa [waiting, HandlerPhase.inFlight] using bytes,
        fun _ => kept (by simp [waiting, HandlerPhase.mayWrite]), accepting⟩
  | wakeFailed waiting _ _ =>
      exact ⟨by simpa [waiting, HandlerPhase.inFlight] using bytes,
        by simp [HandlerPhase.mayWrite], accepting⟩
  | joined joining _ =>
      exact ⟨by simpa [joining, HandlerPhase.inFlight] using bytes,
        by simp [HandlerPhase.mayWrite], accepting⟩
  | takeChunk providing queued =>
      exact ⟨by simpa [providing, queued, HandlerPhase.inFlight] using bytes,
        fun _ => kept (by simp [providing, HandlerPhase.mayWrite]), accepting⟩
  | takeEnd providing empty finished =>
      exact ⟨by simpa [providing, HandlerPhase.inFlight] using bytes,
        by simp [HandlerPhase.mayWrite], accepting⟩
  | written writing =>
      have unlost := kept (by simp [writing, HandlerPhase.mayWrite])
      exact ⟨by simpa [writing, unlost, HandlerPhase.inFlight] using bytes,
        fun _ => unlost, accepting⟩
  | broken writing =>
      have unlost := kept (by simp [writing, HandlerPhase.mayWrite])
      refine ⟨?_, by simp [StreamingProxy.write, HandlerPhase.mayWrite], accepting⟩
      simp only [StreamingProxy.write, HandlerPhase.inFlight, List.nil_append, List.append_assoc]
      rw [bytes, writing, unlost, ← List.append_assoc (List.take _ _), List.take_append_drop]
      rfl
  | release completed =>
      refine ⟨?_, by simp [HandlerPhase.mayWrite], accepting⟩
      rcases completed with phase | phase | phase <;>
        simpa [phase, HandlerPhase.inFlight, StreamingProxyState.cancelDownstream] using bytes
  | complete releasing _ =>
      exact ⟨by simpa [releasing, HandlerPhase.inFlight] using bytes,
        by simp [HandlerPhase.mayWrite], accepting⟩

/-- The client sees a prefix of what the worker sent, in every interleaving. -/
theorem StreamingProxy.Ordered.sentPrefix {proxy : StreamingProxy} (ordered : proxy.Ordered) :
    proxy.sent <+: proxy.received :=
  ⟨_, ordered.bytes.symm⟩

/-! ## The end of the stream -/

/-- What the client may conclude: the bytes are those of the worker, and a clean
end means that the transfer from the worker was complete. -/
structure StreamingProxy.Faithful (proxy : StreamingProxy) : Prop where
  sentPrefix : proxy.sent <+: proxy.received
  cleanEnd : proxy.cleanEnd = true → proxy.reader = .ended none

/-- Once the response head is there, `client.send` fails only after the client of
the supervisor has gone. -/
def TransferSurvives (proxy : StreamingProxy) : ProxyAction → Prop
  | .sendReturns failure =>
      failure = none ∨ proxy.shared.headersReady = false ∨ proxy.shared.downstreamCanceled = true
  | _ => True

instance (proxy : StreamingProxy) (action : ProxyAction) :
    Decidable (TransferSurvives proxy action) :=
  match action with
  | .sendReturns failure =>
      inferInstanceAs (Decidable (failure = none ∨ proxy.shared.headersReady = false ∨
        proxy.shared.downstreamCanceled = true))
  | .response _ | .content _ | .wake | .joined | .take | .write _ | .release | .complete =>
      inferInstanceAs (Decidable True)

/-- What the flags say of the two threads, when every transfer survives. -/
structure StreamingProxy.Surviving (proxy : StreamingProxy) : Prop where
  finished : proxy.shared.finished = true → ∃ failure, proxy.reader = .ended failure
  survived : ∀ error, proxy.reader = .ended (some error) →
    proxy.shared.headersReady = false ∨ proxy.shared.downstreamCanceled = true
  abandoned : proxy.shared.downstreamCanceled = true → proxy.handler.mayWrite = false
  headed : proxy.handler.streams = true → proxy.shared.headersReady = true
  cleanEnd : proxy.cleanEnd = true → proxy.reader = .ended none ∧ proxy.sent = proxy.received ∧
    proxy.handler.mayWrite = false

theorem StreamingProxy.Surviving.initial (operation : String) :
    StreamingProxy.Surviving { operation } := by
  constructor <;> simp [HandlerPhase.streams]

theorem StreamingProxy.Surviving.step {proxy next : StreamingProxy} {action : ProxyAction}
    (surviving : proxy.Surviving) (ordered : proxy.Ordered) (allowed : TransferSurvives proxy action)
    (taken : proxyStep proxy action = some next) : next.Surviving := by
  obtain ⟨finished, survived, abandoned, headed, cleanEnd⟩ := surviving
  cases proxyStep_cases taken with
  | response sending first =>
      exact ⟨by simpa using finished, by simp [sending], by simpa using abandoned, by simp, cleanEnd⟩
  | queued sending ready listening =>
      refine ⟨finished, survived, abandoned, headed, fun clean => ?_⟩
      exact absurd (cleanEnd clean).1 (by simp [sending])
  | refused sending ready gone =>
      refine ⟨?_, by simp, abandoned, headed, fun clean => ?_⟩
      · intro completed
        obtain ⟨failure, ended⟩ := finished completed
        simp [sending] at ended
      · exact absurd (cleanEnd clean).1 (by simp [sending])
  | sendReturns returns =>
      refine ⟨fun _ => ⟨_, rfl⟩, ?_, by simpa [finish_keeps] using abandoned,
        by simpa [finish_keeps] using headed, fun clean => ?_⟩
      · rintro error ⟨⟩
        simpa [finish_keeps, TransferSurvives] using allowed
      · rw [(cleanEnd clean).1] at returns
        contradiction
  | wakeReady waiting ready =>
      refine ⟨finished, survived, fun gone => ?_, fun _ => ready, fun clean => ?_⟩
      · exact absurd (abandoned gone) (by simp [waiting, HandlerPhase.mayWrite])
      · exact absurd (cleanEnd clean).2.2 (by simp [waiting, HandlerPhase.mayWrite])
  | wakeFailed waiting headless completed =>
      refine ⟨finished, survived, fun _ => rfl, by simp [HandlerPhase.streams], fun clean => ?_⟩
      exact absurd (cleanEnd clean).2.2 (by simp [waiting, HandlerPhase.mayWrite])
  | joined joining ended =>
      exact ⟨finished, survived, fun _ => rfl, by simp [HandlerPhase.streams],
        fun clean => ⟨(cleanEnd clean).1, (cleanEnd clean).2.1, rfl⟩⟩
  | takeChunk providing queued =>
      have ready := headed (by simp [providing, HandlerPhase.streams])
      refine ⟨finished, survived, fun gone => ?_, fun _ => ready, fun clean => ?_⟩
      · exact absurd (abandoned gone) (by simp [providing, HandlerPhase.mayWrite])
      · exact absurd (cleanEnd clean).2.2 (by simp [providing, HandlerPhase.mayWrite])
  | takeEnd providing empty completed =>
      -- The provider is live, so a failed transfer would have had to survive.
      have ready := headed (by simp [providing, HandlerPhase.streams])
      have live : proxy.handler.mayWrite = true := by simp [providing, HandlerPhase.mayWrite]
      obtain ⟨failure, ended⟩ := finished completed
      have complete : failure = none := by
        cases failure with
        | none => rfl
        | some error =>
            rcases survived error ended with headless | gone
            · simp [ready] at headless
            · simp [live] at abandoned
              simp [abandoned] at gone
      subst complete
      refine ⟨finished, survived, fun _ => rfl, by simp [HandlerPhase.streams],
        fun _ => ⟨ended, ?_, rfl⟩⟩
      simpa [ordered.kept live, ordered.accepting (.inr ended), empty, providing,
        HandlerPhase.inFlight] using ordered.bytes.symm
  | written writing =>
      have ready := headed (by simp [writing, HandlerPhase.streams])
      refine ⟨finished, survived, fun gone => ?_, fun _ => ready, fun clean => ?_⟩
      · exact absurd (abandoned gone) (by simp [writing, HandlerPhase.mayWrite])
      · exact absurd (cleanEnd clean).2.2 (by simp [writing, HandlerPhase.mayWrite])
  | broken writing =>
      refine ⟨finished, fun _ _ => .inr rfl, fun _ => rfl,
        by simp [StreamingProxy.write, HandlerPhase.streams], fun clean => ?_⟩
      exact absurd (cleanEnd clean).2.2 (by simp [writing, HandlerPhase.mayWrite])
  | release completed =>
      exact ⟨finished, fun _ _ => .inr rfl, fun _ => rfl, by simp [HandlerPhase.streams],
        fun clean => ⟨(cleanEnd clean).1, (cleanEnd clean).2.1, rfl⟩⟩
  | complete releasing ended =>
      exact ⟨finished, survived, fun _ => rfl, by simp [HandlerPhase.streams],
        fun clean => ⟨(cleanEnd clean).1, (cleanEnd clean).2.1, rfl⟩⟩

theorem streaming_proxy_surviving {operation : String} {schedule : List ProxyAction}
    {proxy : StreamingProxy} (along : Along proxyStep TransferSurvives { operation } schedule)
    (ran : run proxyStep { operation } schedule = some proxy) :
    proxy.Ordered ∧ proxy.Surviving := by
  refine run_preserves_along (fun proxy => proxy.Ordered ∧ proxy.Surviving) ?_
    ⟨.initial operation, .initial operation⟩ along ran
  intro proxy action next ⟨ordered, surviving⟩ allowed taken
  exact ⟨ordered.step taken, surviving.step ordered allowed taken⟩

/-- The bytes are those of the worker in every run, and a clean end means what it should when
the transfer survives. -/
theorem streaming_proxy_faithful {operation : String} {schedule : List ProxyAction}
    {proxy : StreamingProxy} (ran : run proxyStep { operation } schedule = some proxy) :
    proxy.sent <+: proxy.received ∧
      (Along proxyStep TransferSurvives { operation } schedule → proxy.Faithful) := by
  have ordered : proxy.Ordered :=
    run_preserves StreamingProxy.Ordered (fun _ _ _ ordered taken => ordered.step taken)
      (.initial operation) ran
  refine ⟨ordered.sentPrefix, fun along => ⟨ordered.sentPrefix, fun clean => ?_⟩⟩
  exact ((streaming_proxy_surviving along ran).2.cleanEnd clean).1

/-- Under the same condition a clean end also means that nothing is missing. -/
theorem streaming_proxy_complete {operation : String} {schedule : List ProxyAction}
    {proxy : StreamingProxy} (along : Along proxyStep TransferSurvives { operation } schedule)
    (ran : run proxyStep { operation } schedule = some proxy) (clean : proxy.cleanEnd = true) :
    proxy.sent = proxy.received :=
  ((streaming_proxy_surviving along ran).2.cleanEnd clean).2.1

/-! ## A failed transfer -/

/-- A provider that is not disturbed drains the queue and ends the stream cleanly,
whatever the transfer came to. -/
theorem provider_ends_cleanly (proxy : StreamingProxy) (providing : proxy.handler = .providing)
    (finished : proxy.shared.finished = true) :
    ∃ schedule next, run proxyStep proxy schedule = some next ∧
      next.cleanEnd = true ∧ next.reader = proxy.reader := by
  generalize queue : proxy.shared.chunks = chunks
  induction chunks generalizing proxy with
  | nil =>
      refine ⟨[.take], { proxy with handler := .done, cleanEnd := true }, ?_, rfl, rfl⟩
      simp [run, proxyStep, StreamingProxy.take, providing, queue, finished]
  | cons chunk rest ih =>
      obtain ⟨schedule, next, ran, clean, reader⟩ := ih
        { proxy with
          shared := { proxy.shared with chunks := rest }
          handler := .providing
          sent := proxy.sent ++ chunk } rfl finished rfl
      refine ⟨.take :: .write .accepted :: schedule, next, ?_, clean, reader⟩
      simpa [run, proxyStep, StreamingProxy.take, StreamingProxy.write, providing, queue] using ran

/-- The worker sends a response head and a first chunk. -/
def startedSchedule : List ProxyAction :=
  [.response { status := 200, headers := [] }, .wake, .content (utf8 "first"), .take,
    .write .accepted]

theorem streaming_proxy_faithful_complete :
    ∃ proxy, run proxyStep { operation := "/query/stored" }
        (startedSchedule ++ [.sendReturns none, .take]) = some proxy ∧ proxy.Faithful := by
  have along : Along proxyStep TransferSurvives { operation := "/query/stored" }
      (startedSchedule ++ [.sendReturns none, .take]) := by decide
  exact ⟨_, rfl, (streaming_proxy_faithful rfl).2 along⟩

/-- The worker is killed in the middle of the stream, and the client sees it end. -/
theorem failed_transfer_ends_cleanly :
    ¬ ∀ operation schedule proxy, run proxyStep { operation } schedule = some proxy →
      proxy.Faithful := by
  intro faithful
  have ended := (faithful "/query/stored"
    (startedSchedule ++ [.sendReturns (some .read), .take]) _ rfl).cleanEnd rfl
  exact absurd ended (by decide)

end JVLinkServer.Supervisor
