import JVLinkServer.Supervisor.StandardProxy
import JVLinkServer.Supervisor.StreamingProxy

namespace JVLinkServer.Supervisor

open Http

/-! # Two ways through the supervisor

The answer on a streaming endpoint is passed on as it arrives, the answer on any other one
when it is complete.
-/

/-- The response that `proxyStreamingRequest` leaves, with all that its provider will write. -/
def applyStreamingHead (state : StreamingProxyState) (content : Bytes) (response : Response) :
    Response :=
  let copied := state.upstreamHeaders.filter fun header =>
    !(shouldSkipResponseHeader header.1 || sameName header.1 (utf8 "Content-Type"))
  let response :=
    { response with
      status := state.upstreamStatus
      headers := response.headers ++ copied }
  response.setChunkedContentProvider state.contentType content

/-- `proxyStreamingRequest`, on what `send` gives to the response handler and the content
receiver, if it calls them. -/
def proxyStreamingRequest (request : Request) (ready : Bool)
    (send : Request → Option Response) (response : Response) : Response :=
  let operation := request.path
  if !ready then setUnavailableResponse operation "JV-Link worker is unavailable" response
  else
    match send (applyRequestHeaders request) with
    | none =>
        setUnavailableResponse operation "JV-Link worker failed before streaming response started"
          response
    | some upstream =>
        let state := StreamingProxyState.responseHandler {} operation
          { status := upstream.status, headers := upstream.headers }
        applyStreamingHead state upstream.content response

/-- The routes of `proxyStreamingRequest`. -/
def streamingPaths : List String :=
  ["/query/stored", "/v1/query/stored", "/query/realtime", "/v1/query/realtime",
   "/events/stream", "/v1/events/stream"]

/-- What the routes of `setupRoutes` that lead to the worker leave. -/
def proxyRequest (request : Request) (ready : Bool) (send : Request → Option Response)
    (response : Response) : Response :=
  if streamingPaths.contains request.path then proxyStreamingRequest request ready send response
  else (proxyStandardRequest request ready send response).response

/-- A proxied request through the supervisor's server. -/
def serveProxied (connection : Connection) (request : Request) (ready : Bool)
    (send : Request → Option Response) : Response :=
  httpServer.respond connection request
    (proxyRequest request ready send (httpServer.preRoutingHandler {}))

/-- What the reader keeps of the head. -/
theorem responseHandler_head (operation : String) (head : UpstreamHead) :
    (StreamingProxyState.responseHandler {} operation head).upstreamStatus = head.status ∧
      (StreamingProxyState.responseHandler {} operation head).upstreamHeaders = head.headers ∧
      (StreamingProxyState.responseHandler {} operation head).contentType =
        head.headers.value "Content-Type" "application/octet-stream" := by
  unfold StreamingProxyState.responseHandler
  dsimp only
  split <;> exact ⟨rfl, rfl, rfl⟩

/-! ## The fields that are copied -/

section Copied

variable {name : String}

/-- Names that differ in case only are the same to every test. -/
theorem sameName_congr {left right : Bytes} (same : sameName left right = true) (other : Bytes) :
    sameName left other = sameName right other := by
  unfold sameName at same ⊢
  rw [beq_iff_eq.mp same]

theorem sameName_comm (left right : Bytes) : sameName left right = sameName right left :=
  Bool.beq_comm

/-- A copy that leaves out other names. -/
theorem values_filter {headers : Headers} (skips : Bytes → Bool)
    (other : ∀ field, sameName field (utf8 name) = true → skips field = false) :
    Headers.values (headers.filter fun header => !skips header.1) name = headers.values name := by
  unfold Headers.values
  rw [List.filter_filter]
  congr 2
  funext header
  cases same : sameName header.1 (utf8 name) with
  | false => rfl
  | true => rw [other header.1 same, Bool.not_false, Bool.and_true]

/-- Both copies leave out fields of the framing only. -/
theorem not_skipped (other : isFraming name = false) {field : Bytes}
    (same : sameName field (utf8 name) = true) :
    shouldSkipResponseHeader field = false ∧ sameName field (utf8 "Content-Type") = false := by
  simp only [isFraming, List.any_cons, List.any_nil, Bool.or_false, Bool.or_eq_false_iff] at other
  obtain ⟨contentType, contentLength, _, transferEncoding, connection, keepAlive⟩ := other
  simp only [shouldSkipResponseHeader, List.any_cons, List.any_nil, Bool.or_false,
    sameName_congr same, sameName_comm (utf8 name), contentType, contentLength, transferEncoding,
    connection, keepAlive, and_self]

theorem proxyRequest_values {request : Request} {upstream : Response}
    {send : Request → Option Response}
    (sent : send (applyRequestHeaders request) = some upstream) (other : isFraming name = false)
    (response : Response) :
    (proxyRequest request true send response).headers.values name =
      response.headers.values name ++ upstream.headers.values name := by
  have copied : Headers.values (upstream.headers.filter fun header =>
      !shouldSkipResponseHeader header.1) name = upstream.headers.values name :=
    values_filter shouldSkipResponseHeader fun field same => (not_skipped other same).1
  have copied' : Headers.values (upstream.headers.filter fun header =>
      !(shouldSkipResponseHeader header.1 || sameName header.1 (utf8 "Content-Type"))) name =
        upstream.headers.values name :=
    values_filter
      (fun field => shouldSkipResponseHeader field || sameName field (utf8 "Content-Type"))
      fun field same => by rw [(not_skipped other same).1, (not_skipped other same).2, Bool.or_self]
  unfold proxyRequest
  split
  · have type : sameName (utf8 "Content-Type") (utf8 name) = false := by
      simp only [isFraming, List.any_cons, Bool.or_eq_false_iff] at other
      exact other.1
    simp only [proxyStreamingRequest, Bool.not_true, Bool.false_eq_true, if_false, sent,
      applyStreamingHead, Response.setChunkedContentProvider, setHeader_values_other type,
      responseHandler_head, Headers.values_append, copied']
  · simp only [proxyStandardRequest, Bool.not_true, Bool.false_eq_true, if_false, sent,
      applyResponseHeaders, Headers.values_append, copied]

end Copied

end JVLinkServer.Supervisor
