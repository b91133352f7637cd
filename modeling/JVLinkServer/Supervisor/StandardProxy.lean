import JVLinkServer.Http.Client
import JVLinkServer.Worker.Health

namespace JVLinkServer.Supervisor

open Http

/-! # Relaying an answer

The supervisor sends a request on to its worker and the worker's answer back.  Between the
two stand its own client and its own server.
-/

/-- `shouldSkipRequestHeader` -/
def shouldSkipRequestHeader (name : Bytes) : Bool :=
  ["Host", "Connection", "Keep-Alive", "Transfer-Encoding", "Content-Length"].any fun skipped =>
    sameName name (utf8 skipped)

def shouldSkipResponseHeader (name : Bytes) : Bool :=
  ["Connection", "Keep-Alive", "Transfer-Encoding", "Content-Length"].any fun skipped =>
    sameName name (utf8 skipped)

/-- The request to the worker. -/
def applyRequestHeaders (request : Request) : Request where
  method := request.method
  path := request.path
  body := request.body
  headers := request.headers.filter fun header => !shouldSkipRequestHeader header.1

/-- Fields are added to those that the response has, whatever their values. -/
def applyResponseHeaders (upstream response : Response) : Response :=
  { response with
    status := upstream.status
    headers := response.headers ++
      upstream.headers.filter fun header => !shouldSkipResponseHeader header.1 }

def setUnavailableResponse (operation message : String) (response : Response) : Response :=
  let response := { response with status := 503 }
  let response := response.setHeader "X-JVLink-Unavailable" (utf8 "1")
  let response := response.setHeader "X-JVLink-Operation" (utf8 operation)
  let response := response.setHeader "Retry-After" (decimal 1)
  response.setContent
    (Json.record
      [("error", .record [("code", .integer (-50301)), ("message", .text message)]),
       ("operation", .text operation)]).render
    Worker.jsonContentType

/-- The handlers around the routes of the supervisor. -/
def httpServer : Server where
  preRoutingHandler := Worker.corsHeaders
  errorHandler response :=
    if response.status = 503 ∧ response.getHeaderValue "X-JVLink-Busy" = utf8 "1" then response
    else if !response.body.isEmpty then response
    else
      let message :=
        if response.status = 404 then "Not found"
        else if 500 ≤ response.status then "Internal Server Error"
        else "Request failed"
      response.setContent (Worker.errorJson message).render Worker.jsonContentType
  exceptionHandler _ response :=
    { response with status := 500 }.setContent (Worker.errorJson "Internal Server Error").render
      Worker.jsonContentType

/-- An answer to the client, and the reason for which the worker was restarted. -/
structure Relayed where
  response : Response
  restarted : Option String := none
  deriving DecidableEq, Repr

/-- `proxyStandardRequest`, on what `ensureWorkerReady` says and on what the client of the
worker returns. -/
def proxyStandardRequest (request : Request) (ready : Bool)
    (send : Request → Option Response) (response : Response) : Relayed :=
  let operation := request.path
  if !ready then
    { response := setUnavailableResponse operation "JV-Link worker is unavailable" response }
  else
    match send (applyRequestHeaders request) with
    | none =>
        { response := setUnavailableResponse operation "JV-Link worker transport failed" response
          restarted := some ("upstream transport failure for " ++ operation) }
    | some upstream =>
        { response := { applyResponseHeaders upstream response with body := upstream.body }
          restarted :=
            if upstream.status = 503 ∧
                upstream.getHeaderValue "X-JVLink-Unavailable" = utf8 "1" then
              some ("worker reported unavailable for " ++ operation)
            else none }

/-- A request through the supervisor's server. -/
def serveStandard (connection : Connection) (request : Request) (ready : Bool)
    (send : Request → Option Response) : Relayed :=
  let relayed := proxyStandardRequest request ready send (httpServer.preRoutingHandler {})
  { relayed with response := httpServer.respond connection request relayed.response }

end JVLinkServer.Supervisor
