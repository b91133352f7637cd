import JVLinkServer.Client.BusySessions
import JVLinkServer.JsonLines
import JVLinkServer.Supervisor.StreamingRelay

namespace JVLinkServer.Client

open Http Supervisor

/-! # Answers behind the supervisor

The worker's answer reaches the client through the supervisor, whose error handler looks at
every answer with an error status before its body is written.
-/

/-! ## What the client makes of an answer -/

/-- An exception with its type, its code and its message. -/
def PythonException.core : PythonException → PythonException
  | .jvLink error =>
      .jvLink { cls := error.cls, message := error.message, errorCode := error.errorCode }
  | exception => exception

section Exceptions

variable (library : PythonLibrary)

theorem buildErrorForCode_core (code : Json) (message : Bytes) (status : Nat)
    (retryAfter retryAfter' : Option Int) (context context' : BusyContext) :
    (match buildErrorForCode library code message .serverError retryAfter context with
      | .ok error =>
          PythonException.jvLink { error with cause := some (.httpStatusError status) }
      | .error exception => .builtin exception).core =
      (match buildErrorForCode library code message .serverError retryAfter' context' with
        | .ok error =>
            PythonException.jvLink { error with cause := some (.httpStatusError status) }
        | .error exception => .builtin exception).core := by
  unfold buildErrorForCode
  cases errorClass library code .serverError with
  | error exception => rfl
  | ok cls => cases cls <;> rfl

variable {response other : HttpResponse}

/-- Neither way of reading a refusal takes the message or the code from a header field. -/
theorem parseHttpStatusError_core (status : response.status = other.status)
    (content : response.content = other.content) :
    (parseHttpStatusError library response).map (fun refused => (refused.message, refused.code)) =
      (parseHttpStatusError library other).map fun refused => (refused.message, refused.code) := by
  unfold parseHttpStatusError
  rw [status, content]
  cases other.content with
  | error exception =>
      dsimp only
      split <;> rfl
  | ok text =>
      dsimp only
      cases library.loadsBytes text with
      | error exception => cases exception <;> cases (library.decodeReplacing text).isEmpty <;> rfl
      | ok body =>
          cases (library.decodeReplacing text).isEmpty <;> dsimp only <;> split <;> rfl

theorem parseServerError_core (status : response.status = other.status) (text : Bytes) :
    (parseServerError library response text).map (fun refused => (refused.message, refused.code)) =
      (parseServerError library other text).map fun refused => (refused.message, refused.code) := by
  unfold parseServerError
  rw [status]
  cases library.loadsBytes text with
  | error exception => cases exception <;> rfl
  | ok body =>
      dsimp only
      split <;> rfl

/-- The exception is that of the error that was read. -/
theorem raised_core {read read' : Except PythonException StatusError}
    (same : read.map (fun refused => (refused.message, refused.code)) =
      read'.map fun refused => (refused.message, refused.code)) (status : Nat) :
    (match read with
      | .error exception => exception
      | .ok refused =>
          match buildErrorForCode library refused.code refused.message .serverError
              refused.retryAfter refused.busyContext with
          | .ok error => PythonException.jvLink { error with cause := some (.httpStatusError status) }
          | .error exception => .builtin exception).core =
      (match read' with
        | .error exception => exception
        | .ok refused =>
            match buildErrorForCode library refused.code refused.message .serverError
                refused.retryAfter refused.busyContext with
            | .ok error =>
                PythonException.jvLink { error with cause := some (.httpStatusError status) }
            | .error exception => .builtin exception).core := by
  cases read with
  | error exception =>
      cases read' with
      | error exception' =>
          cases same
          rfl
      | ok refused' => cases same
  | ok refused =>
      cases read' with
      | error exception' => cases same
      | ok refused' =>
          obtain ⟨message, code⟩ := Prod.mk.inj (Except.ok.inj same)
          dsimp only
          rw [message, code]
          exact buildErrorForCode_core library _ _ status _ _ _ _

/-- Type, code and message depend on the status and the body. -/
theorem refusalException_core (operation : Worker.Operation)
    (status : response.status = other.status) (content : response.content = other.content) :
    (refusalException library operation response).core =
      (refusalException library operation other).core := by
  unfold refusalException
  split
  · unfold statusException
    rw [status]
    exact raised_core library (parseHttpStatusError_core library status content) _
  · unfold serverErrorException
    rw [status, content]
    cases other.content with
    | error exception => rfl
    | ok text => exact raised_core library (parseServerError_core library status text) _

end Exceptions

/-! ## What the supervisor's server makes of one -/

/-- The text that the error handler of the supervisor writes. -/
def errorText (status : Int) : Bytes :=
  (Worker.errorJson
    (if status = 404 then "Not found"
      else if 500 ≤ status then "Internal Server Error"
      else "Request failed")).render

theorem errorText_filled (status : Int) : ¬ (errorText status).isEmpty = true := by
  unfold errorText
  split
  · decide
  · split <;> decide

/-- The error handler leaves the answer alone. -/
def isBusyAnswer (response : Http.Response) : Bool :=
  response.status == 503 && response.getHeaderValue "X-JVLink-Busy" == utf8 "1"

section Served

variable {connection : Connection} {request : Http.Request} {response : Http.Response}

theorem respond_started (server : Http.Server) (started : response.status ≠ -1) :
    server.respond connection request response =
      match rangeError request.ranges response with
      | none =>
          server.writeResponse connection []
            { response with status := 416, body := [], provider := none }
      | some ranges => server.writeResponse connection ranges response := by
  cases kept : rangeError request.ranges response with
  | none => simp only [Http.Server.respond, started, if_false, kept]
  | some ranges => simp only [Http.Server.respond, started, if_false, kept]

theorem errorHandler_eq (response : Http.Response) :
    Supervisor.httpServer.errorHandler response =
      if isBusyAnswer response = true ∨ response.body ≠ [] then response
      else response.setContent (errorText response.status) Worker.jsonContentType := by
  unfold Supervisor.httpServer isBusyAnswer errorText
  dsimp only
  by_cases busy : response.status = 503 ∧ response.getHeaderValue "X-JVLink-Busy" = utf8 "1"
  · simp [busy]
  · have idle : ¬ ((response.status == 503 &&
        response.getHeaderValue "X-JVLink-Busy" == utf8 "1") = true) := by
      simpa using busy
    cases body : response.body <;> simp [busy, idle]

theorem errorHandler_status (response : Http.Response) :
    (Supervisor.httpServer.errorHandler response).status = response.status := by
  rw [errorHandler_eq]
  split <;> rfl

theorem writeResponse_status (ranges : List Http.Range) :
    (Supervisor.httpServer.writeResponse connection ranges response).status = response.status := by
  rw [Http.Server.writeResponse, finish_status, applyRanges_status, Http.Server.described]
  split
  · exact errorHandler_status response
  · rfl

/-- Only a success is asked about its ranges. -/
theorem rangeError_none {ranges : List Http.Range} (refused : rangeError ranges response = none) :
    200 ≤ response.status ∧ response.status < 300 := by
  unfold rangeError at refused
  split at refused
  · next asked =>
      simp only [Bool.and_eq_true, decide_eq_true_eq] at asked
      exact ⟨asked.1.2, asked.2⟩
  · cases refused

theorem respond_refused (connection : Connection) (started : response.status ≠ -1)
    (refused : rangeError request.ranges response = none) :
    (Supervisor.httpServer.respond connection request response).status ≠ response.status := by
  have success := rangeError_none refused
  rw [respond_started _ started, refused]
  dsimp only
  rw [writeResponse_status]
  dsimp only
  omega

theorem respond_ranged (connection : Connection) (started : response.status ≠ -1)
    {ranges : List Http.Range}
    (kept : rangeError request.ranges response = some ranges) :
    (Supervisor.httpServer.respond connection request response).status = response.status ∧
      (Supervisor.httpServer.respond connection request response).content =
        (if (applyRanges connection.boundary ranges
            (Supervisor.httpServer.described response)).body.isEmpty then
          (Supervisor.httpServer.described response).provider.getD []
        else (applyRanges connection.boundary ranges
          (Supervisor.httpServer.described response)).body) := by
  rw [respond_started _ started, kept]
  dsimp only
  refine ⟨writeResponse_status ranges, ?_⟩
  rw [Http.Response.content, Http.Server.writeResponse, finish_body, finish_provider,
    applyRanges_provider]

/-! ## A complete answer -/

/-- A body is kept by every range that covers it. -/
theorem respond_complete (connection : Connection) (started : response.status ≠ -1)
    (filled : response.body ≠ [])
    (whole : response.provider = none) {ranges : List Http.Range}
    (kept : rangeError request.ranges response = some ranges) :
    (Supervisor.httpServer.respond connection request response).content =
      (applyRanges connection.boundary ranges response).body := by
  have described : Supervisor.httpServer.described response = response := by
    rw [Http.Server.described, errorHandler_eq]
    split
    · exact if_pos (.inr filled)
    · rfl
  rw [(respond_ranged connection started kept).2, described, whole]
  cases (applyRanges connection.boundary ranges response).body <;> rfl

/-! ## An answer on its way -/

/-- No range of an empty body can be satisfied. -/
theorem rangeError_streamed (ranges : List Http.Range) (empty : response.body = []) :
    rangeError ranges response =
      if ranges ≠ [] ∧ 200 ≤ response.status ∧ response.status < 300 then none
      else some ranges := by
  have unsatisfied (range : Http.Range) (rest : List Http.Range) :
      checkRanges 0 (-1) (-1) 0 (range :: rest) = none := by
    rw [checkRanges, if_pos]
    omega
  unfold rangeError
  rw [empty, List.length_nil]
  cases ranges with
  | nil => rfl
  | cons range rest =>
      by_cases success : 200 ≤ response.status ∧ response.status < 300
      · simp only [Int.natCast_zero, unsatisfied, success, ite_self]
        simp
      · simp [success]

theorem respond_streamed (connection : Connection) (started : response.status ≠ -1)
    (empty : response.body = [])
    {content : Bytes} (streamed : response.provider = some content) {ranges : List Http.Range}
    (kept : rangeError request.ranges response = some ranges) :
    (Supervisor.httpServer.respond connection request response).content =
      if 400 ≤ response.status ∧ isBusyAnswer response = false then errorText response.status
      else content := by
  rw [(respond_ranged connection started kept).2, Http.Server.described, errorHandler_eq]
  have silent : (applyRanges connection.boundary ranges response).body = [] :=
    applyRanges_empty _ _ _ empty
  by_cases error : 400 ≤ response.status
  · cases busy : isBusyAnswer response with
    | true => simp [error, silent, streamed]
    | false =>
        have notPartial : (response.setContent (errorText response.status)
            Worker.jsonContentType).status ≠ 206 := by
          rw [Http.Response.setContent_status]
          omega
        have written : (applyRanges connection.boundary ranges (response.setContent
            (errorText response.status) Worker.jsonContentType)).body = errorText response.status := by
          rw [applyRanges_whole _ _ _ (.inl notPartial), Http.Response.setContent_body]
        have idle : ¬ (false = true ∨ response.body ≠ []) := by simp [empty]
        rw [if_pos error, if_neg idle, written, if_neg (errorText_filled _)]
        exact (if_pos ⟨error, rfl⟩).symm
  · simp [error, silent, streamed]

end Served

/-! ## Answers that pass whole -/

/-- The client gets the worker's answer, and raises for it what it would raise without a
supervisor. -/
structure Transparent (sent answer : Http.Response) : Prop where
  status : answer.status = sent.status
  body : answer.content = sent.content
  exception : ∀ library operation receives, ReadsAnswer receives answer →
    ReadsAnswer receives sent →
      (refusalException library operation (receives answer)).core =
        (refusalException library operation (receives sent)).core

theorem transparent_of_same {sent answer : Http.Response} (status : answer.status = sent.status)
    (body : answer.content = sent.content) : Transparent sent answer where
  status
  body
  exception library operation receives answered original := by
    rw [answered, original]
    exact refusalException_core library operation (congrArg Int.toNat status)
      (congrArg Except.ok body)

/-- What comes to the supervisor of its worker's answer. -/
def arrive (request : Http.Request) (sent : Http.Response) : Option Http.Response :=
  if streamingPaths.contains request.path then receiveStreaming sent else receive sent

/-- What the handler of the supervisor answers when nothing comes. -/
def unavailableAnswer (request : Http.Request) : Http.Response → Http.Response :=
  setUnavailableResponse request.path
    (if streamingPaths.contains request.path then
      "JV-Link worker failed before streaming response started"
    else "JV-Link worker transport failed")

/-- The error handler of the supervisor describes an answer on its way. -/
def isDescribed (upstream : Http.Response) : Bool :=
  400 ≤ upstream.status && !isBusyAnswer upstream

/-- An answer that cannot be read is the supervisor's own already.  One that can be has a body
that is read, but on a streaming endpoint an error is the supervisor's own, unless it
reports the worker busy; a range is resolved twice. -/
def PassesWhole (connection : Connection) (request : Http.Request) (sent : Http.Response) :
    Prop :=
  match arrive request sent with
  | none => sent.status = 503 ∧ sent.content = (unavailableAnswer request {}).body
  | some upstream =>
      if streamingPaths.contains request.path then
        (request.ranges = [] ∨ ¬ (200 ≤ upstream.status ∧ upstream.status < 300)) ∧
          if isDescribed upstream then sent.content = errorText upstream.status
          else readsBody upstream = true
      else
        readsBody upstream = true ∧
          ∃ ranges, rangeError request.ranges upstream = some ranges ∧
            (upstream.status = 206 →
              (applyRanges connection.boundary ranges upstream).body = upstream.body)

section Relayed

variable {connection : Connection} {request : Http.Request} {sent upstream : Http.Response}

/-- What is received of an answer. -/
structure Arrived (sent upstream : Http.Response) : Prop where
  status : upstream.status = sent.status
  body : upstream.body = if readsBody upstream then sent.content else []
  whole : upstream.provider = none
  code : isStatusCode sent.status = true

theorem arrived (received : arrive request sent = some upstream) : Arrived sent upstream := by
  unfold arrive at received
  split at received
  · obtain ⟨status, -, whole, code⟩ := receiveStreaming_head received
    exact ⟨status, receiveStreaming_body received, whole, code⟩
  · obtain ⟨status, -, whole, code⟩ := receive_head received
    exact ⟨status, receive_body received, whole, code⟩

theorem Arrived.started (parts : Arrived sent upstream) : upstream.status ≠ -1 := by
  have code := parts.code
  simp only [isStatusCode, Bool.and_eq_true, decide_eq_true_eq] at code
  rw [parts.status]
  omega

/-- A body that is not empty arrives if it is read. -/
theorem Arrived.body_iff (parts : Arrived sent upstream) (filled : sent.content ≠ []) :
    upstream.body = sent.content ↔ readsBody upstream = true := by
  rw [parts.body]
  cases readsBody upstream with
  | true => simp
  | false => simpa using Ne.symm filled

section Proxied

variable {send : Http.Request → Option Http.Response}

theorem proxyRequest_streamed (streaming : streamingPaths.contains request.path = true)
    (received : send (applyRequestHeaders request) = some upstream)
    (whole : upstream.provider = none) (response : Http.Response) :
    (proxyRequest request true send response).status = upstream.status ∧
      (proxyRequest request true send response).body = response.body ∧
      (proxyRequest request true send response).provider = some upstream.body := by
  simp only [proxyRequest, streaming, if_true, proxyStreamingRequest, Bool.not_true,
    Bool.false_eq_true, if_false, received, applyStreamingHead,
    Http.Response.setChunkedContentProvider, responseHandler_head, content_of_whole whole,
    Http.Response.setHeader_status, Http.Response.setHeader_body, and_self]

theorem proxyRequest_whole (standard : ¬ streamingPaths.contains request.path = true)
    (received : send (applyRequestHeaders request) = some upstream) (response : Http.Response) :
    (proxyRequest request true send response).status = upstream.status ∧
      (proxyRequest request true send response).body = upstream.body ∧
      (proxyRequest request true send response).provider = response.provider := by
  simp only [proxyRequest, standard, if_false, proxyStandardRequest, Bool.not_true,
    Bool.false_eq_true, received, applyResponseHeaders, and_self]

theorem proxyRequest_unavailable (lost : send (applyRequestHeaders request) = none)
    (response : Http.Response) :
    proxyRequest request true send response = unavailableAnswer request response := by
  unfold proxyRequest unavailableAnswer
  split
  · simp only [proxyStreamingRequest, Bool.not_true, Bool.false_eq_true, if_false, lost]
  · simp only [proxyStandardRequest, Bool.not_true, Bool.false_eq_true, if_false, lost]

theorem isBusyAnswer_relayed (request : Http.Request)
    (received : send (applyRequestHeaders request) = some upstream)
    (whole : upstream.provider = none) :
    isBusyAnswer (proxyRequest request true send
        (Supervisor.httpServer.preRoutingHandler {})) = isBusyAnswer upstream := by
  have start : (Supervisor.httpServer.preRoutingHandler {}).headers.values "X-JVLink-Busy" = [] := by
    decide
  have values : (proxyRequest request true send
      (Supervisor.httpServer.preRoutingHandler {})).headers.values "X-JVLink-Busy" =
        upstream.headers.values "X-JVLink-Busy" := by
    rw [proxyRequest_values received (by decide), start, List.nil_append]
  have status : (proxyRequest request true send
      (Supervisor.httpServer.preRoutingHandler {})).status = upstream.status := by
    by_cases streaming : streamingPaths.contains request.path = true
    · exact (proxyRequest_streamed streaming received whole _).1
    · exact (proxyRequest_whole streaming received _).1
  unfold isBusyAnswer Http.Response.getHeaderValue Headers.value
  rw [values, status]

end Proxied

/-! ## No answer -/

theorem unavailable_status (request : Http.Request) (response : Http.Response) :
    (unavailableAnswer request response).status = 503 := rfl

/-- The supervisor's own answer, which its error handler leaves alone. -/
theorem lost_transparent (lost : arrive request sent = none) :
    Transparent sent (serveProxied connection request true fun _ => arrive request sent) ↔
      sent.status = 503 ∧ sent.content = (unavailableAnswer request {}).body := by
  have ranged (response : Http.Response) :
      rangeError request.ranges (unavailableAnswer request response) = some request.ranges := by
    unfold rangeError
    rw [unavailable_status]
    simp
  have started (response : Http.Response) : (unavailableAnswer request response).status ≠ -1 := by
    rw [unavailable_status]
    decide
  have status : (serveProxied connection request true fun _ => arrive request sent).status =
      503 := by
    rw [serveProxied, proxyRequest_unavailable lost]
    exact (respond_ranged connection (started _) (ranged _)).1
  have content : (serveProxied connection request true fun _ => arrive request sent).content =
      (unavailableAnswer request {}).body := by
    rw [serveProxied, proxyRequest_unavailable lost,
      respond_complete connection (started _) (Json.render_ne_nil rfl) rfl (ranged _)]
    exact applyRanges_whole _ _ _ (.inl (by rw [unavailable_status]; decide))
  constructor
  · intro transparent
    exact ⟨transparent.status.symm.trans status, transparent.body.symm.trans content⟩
  · intro own
    exact transparent_of_same (status.trans own.1.symm) (content.trans own.2.symm)

/-! ## An answer that is passed on -/

theorem streamed_transparent (streaming : streamingPaths.contains request.path = true)
    (received : arrive request sent = some upstream) (filled : sent.content ≠ []) :
    Transparent sent (serveProxied connection request true fun _ => arrive request sent) ↔
      (request.ranges = [] ∨ ¬ (200 ≤ upstream.status ∧ upstream.status < 300)) ∧
        if isDescribed upstream then sent.content = errorText upstream.status
        else readsBody upstream = true := by
  have parts := arrived received
  have reads := parts.body_iff filled
  obtain ⟨send, same⟩ : ∃ send : Http.Request → Option Http.Response,
      send = fun _ => arrive request sent := ⟨_, rfl⟩
  have sends : send (applyRequestHeaders request) = some upstream := by rw [same, received]
  rw [← same]
  have busy := isBusyAnswer_relayed request sends parts.whole
  obtain ⟨status, empty, streamed⟩ := proxyRequest_streamed streaming sends parts.whole
    (Supervisor.httpServer.preRoutingHandler {})
  have started := parts.started
  rw [← status] at started
  have ranged := rangeError_streamed request.ranges empty
  rw [serveProxied]
  by_cases refused : request.ranges ≠ [] ∧ 200 ≤ upstream.status ∧ upstream.status < 300
  · rw [status, if_pos refused] at ranged
    have changed := respond_refused connection started ranged
    constructor
    · intro transparent
      exact absurd (transparent.status.trans (parts.status.symm.trans status.symm)) changed
    · intro fits
      obtain plain | failed := fits.1
      · exact absurd plain refused.1
      · exact absurd refused.2 failed
  · rw [status, if_neg refused] at ranged
    have kept := (respond_ranged connection started ranged).1.trans (status.trans parts.status)
    have unrefused : request.ranges = [] ∨ ¬ (200 ≤ upstream.status ∧ upstream.status < 300) := by
      by_cases plain : request.ranges = []
      · exact .inl plain
      · exact .inr fun success => refused ⟨plain, success⟩
    have content := respond_streamed connection started empty streamed ranged
    rw [busy, status] at content
    have passes : (Supervisor.httpServer.respond connection request (proxyRequest request true
        send (Supervisor.httpServer.preRoutingHandler {}))).content = sent.content ↔
        if isDescribed upstream then sent.content = errorText upstream.status
        else readsBody upstream = true := by
      rw [content]
      unfold isDescribed
      by_cases described : 400 ≤ upstream.status ∧ isBusyAnswer upstream = false
      · rw [if_pos described, if_pos (by simpa using described), eq_comm]
      · rw [if_neg described, if_neg (by simpa using described), reads]
    constructor
    · intro transparent
      exact ⟨unrefused, passes.mp transparent.body⟩
    · intro fits
      exact transparent_of_same kept (passes.mpr fits.2)

/-- The ranges of a whole answer are those of the worker's. -/
theorem rangeError_relayed (standard : ¬ streamingPaths.contains request.path = true)
    {send : Http.Request → Option Http.Response}
    (received : send (applyRequestHeaders request) = some upstream) :
    rangeError request.ranges (proxyRequest request true send
        (Supervisor.httpServer.preRoutingHandler {})) =
      rangeError request.ranges upstream := by
  obtain ⟨status, body, -⟩ := proxyRequest_whole standard received
    (Supervisor.httpServer.preRoutingHandler {})
  unfold rangeError
  rw [status, body]

/-- Of the fields only the content type is part of a body. -/
theorem applyRanges_body_congr (boundary : Bytes) (ranges : List Http.Range)
    {first second : Http.Response} (status : first.status = second.status)
    (body : first.body = second.body)
    (type : first.headers.values "Content-Type" = second.headers.values "Content-Type") :
    (applyRanges boundary ranges first).body = (applyRanges boundary ranges second).body := by
  unfold applyRanges
  grind [Http.Response.setHeader_body]

theorem contentType_relayed (standard : ¬ streamingPaths.contains request.path = true)
    {send : Http.Request → Option Http.Response}
    (received : send (applyRequestHeaders request) = some upstream) :
    (proxyRequest request true send
        (Supervisor.httpServer.preRoutingHandler {})).headers.values "Content-Type" =
      upstream.headers.values "Content-Type" := by
  have start : (Supervisor.httpServer.preRoutingHandler {}).headers.values "Content-Type" = [] := by
    decide
  have copied : Headers.values (upstream.headers.filter fun header =>
      !shouldSkipResponseHeader header.1) "Content-Type" =
        upstream.headers.values "Content-Type" := by
    refine values_filter shouldSkipResponseHeader fun field same => ?_
    simp only [shouldSkipResponseHeader, sameName_congr same]
    decide
  simp only [proxyRequest, standard, if_false, proxyStandardRequest, Bool.not_true,
    Bool.false_eq_true, received, applyResponseHeaders, Headers.values_append, start, copied,
    List.nil_append]

theorem whole_transparent (standard : ¬ streamingPaths.contains request.path = true)
    (received : arrive request sent = some upstream) (filled : sent.content ≠ []) :
    Transparent sent (serveProxied connection request true fun _ => arrive request sent) ↔
      readsBody upstream = true ∧
        ∃ ranges, rangeError request.ranges upstream = some ranges ∧
          (upstream.status = 206 →
            (applyRanges connection.boundary ranges upstream).body = upstream.body) := by
  have parts := arrived received
  have reads := parts.body_iff filled
  obtain ⟨send, same⟩ : ∃ send : Http.Request → Option Http.Response,
      send = fun _ => arrive request sent := ⟨_, rfl⟩
  have sends : send (applyRequestHeaders request) = some upstream := by rw [same, received]
  rw [← same]
  obtain ⟨status, body, whole⟩ := proxyRequest_whole standard sends
    (Supervisor.httpServer.preRoutingHandler {})
  have started := parts.started
  rw [← status] at started
  have ranged := rangeError_relayed standard sends
  have type := contentType_relayed standard sends
  rw [serveProxied]
  cases kept : rangeError request.ranges upstream with
  | none =>
      have changed := respond_refused connection started (ranged.trans kept)
      constructor
      · intro transparent
        exact absurd (transparent.status.trans (parts.status.symm.trans status.symm)) changed
      · intro fits
        obtain ⟨-, ranges, impossible, -⟩ := fits
        cases impossible
  | some ranges =>
      obtain ⟨kept', written⟩ := respond_ranged connection started (ranged.trans kept)
      have status' := kept'.trans (status.trans parts.status)
      by_cases empty : upstream.body = []
      · have unread : ¬ readsBody upstream = true := fun read =>
          filled ((reads.mpr read).symm.trans empty)
        have bodiless : upstream.status = 204 ∨ upstream.status = 304 :=
          receive_unread (by rwa [arrive, if_neg standard] at received) (by simpa using unread)
        have few : ¬ 400 ≤ upstream.status := by omega
        have described : Supervisor.httpServer.described (proxyRequest request true send
            (Supervisor.httpServer.preRoutingHandler {})) = proxyRequest request true send
              (Supervisor.httpServer.preRoutingHandler {}) := by
          rw [Http.Server.described, status, if_neg few]
        rw [described, applyRanges_empty _ _ _ (body.trans empty), whole] at written
        constructor
        · intro transparent
          exact absurd (transparent.body.symm.trans written) filled
        · intro fits
          exact absurd fits.1 unread
      have content := respond_complete connection started (by rwa [body]) whole
        (ranged.trans kept)
      rw [applyRanges_body_congr connection.boundary ranges status body type] at content
      have read : readsBody upstream = true := by
        by_contra unread
        exact empty (by rw [parts.body, if_neg unread])
      have whole := reads.mpr read
      constructor
      · intro transparent
        exact ⟨read, ranges, rfl, fun _ => by rw [← content, transparent.body, whole]⟩
      · intro fits
        obtain ⟨-, _, found, keeps⟩ := fits
        cases found
        refine transparent_of_same status' (content.trans ?_)
        by_cases partly : upstream.status = 206
        · rw [keeps partly, whole]
        · rw [applyRanges_whole _ _ _ (.inl partly), whole]

theorem passesWhole_lost (lost : arrive request sent = none) :
    PassesWhole connection request sent ↔
      sent.status = 503 ∧ sent.content = (unavailableAnswer request {}).body := by
  unfold PassesWhole
  rw [lost]

theorem passesWhole_received (received : arrive request sent = some upstream) :
    PassesWhole connection request sent ↔
      if streamingPaths.contains request.path then
        (request.ranges = [] ∨ ¬ (200 ≤ upstream.status ∧ upstream.status < 300)) ∧
          if isDescribed upstream then sent.content = errorText upstream.status
          else readsBody upstream = true
      else
        readsBody upstream = true ∧
          ∃ ranges, rangeError request.ranges upstream = some ranges ∧
            (upstream.status = 206 →
              (applyRanges connection.boundary ranges upstream).body = upstream.body) := by
  unfold PassesWhole
  rw [received]

end Relayed

/-- An answer with a body passes whole on exactly the condition above. -/
theorem relay_transparent (connection : Connection) (request : Http.Request)
    {sent : Http.Response} (filled : sent.bodyFor request ≠ []) :
    Transparent sent (serveProxied connection request true fun _ => arrive request sent) ↔
      PassesWhole connection request sent := by
  have bodied : sent.content ≠ [] := by
    intro empty
    rw [Http.Response.bodyFor, empty, ite_self] at filled
    exact filled rfl
  obtain lost | ⟨upstream, received⟩ := Option.eq_none_or_eq_some (arrive request sent)
  · exact (lost_transparent lost).trans (passesWhole_lost lost).symm
  · rw [passesWhole_received received]
    split
    · next streaming => exact streamed_transparent streaming received bodied
    · next standard => exact whole_transparent standard received bodied

def postRequest (path : String) : Http.Request where
  method := "POST"
  path

def refusal (status : Int) (body : String) : Http.Response where
  status
  headers := [(utf8 "X-JVLink-Unavailable", utf8 "1"),
    (utf8 "Content-Type", utf8 "application/json; charset=utf-8")]
  body := utf8 body

theorem deleted_passes_whole :
    Transparent (refusal 400 "no")
      (serveProxied {} (postRequest "/files/delete") true fun _ =>
        arrive (postRequest "/files/delete") (refusal 400 "no")) := by
  refine (relay_transparent {} (postRequest "/files/delete") (by decide)).mpr ?_
  have received : arrive (postRequest "/files/delete") (refusal 400 "no") =
      some (refusal 400 "no") := by decide +kernel
  rw [passesWhole_received received, if_neg (by decide)]
  exact ⟨by decide, [], rfl, fun partly => absurd partly (by decide)⟩

/-- A worker that is not there is reported as a server that failed. -/
theorem unavailable_not_transparent :
    ¬ ∀ (request : Http.Request) (sent : Http.Response), sent.bodyFor request ≠ [] →
      Transparent sent (serveProxied {} request true fun _ => arrive request sent) := by
  intro transparent
  have body := (transparent (postRequest "/query/stored") (refusal 503
      "\x7b\"error\":\x7b\"code\":-50301,\"message\":\"JV-Link is down\"\x7d\x7d")
    (by decide)).body
  exact absurd body (by decide +kernel)

end JVLinkServer.Client
