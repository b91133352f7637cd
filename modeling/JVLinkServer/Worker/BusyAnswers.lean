import JVLinkServer.Worker.HealthReports
import JVLinkServer.Worker.SessionProtocol

namespace JVLinkServer.Worker

open JVLinkServer.Core Effects Http

/-! # The two snapshots of a busy answer

`setBusyResponse` takes a snapshot of the session for its header fields, and
`buildSessionJson` takes another one for the body.  The session may change between the
two.
-/

/-- The operation that the answer names: that of the session or, without one, that of the
refused request. -/
def shownOperation (operation : Operation) (session : SessionSnapshot) : String :=
  if session.operation.isEmpty then operation.name else session.operation

section Handlers

variable (clock : Clock) (request : Http.Request) (operation : Operation)

/-- `setBusyResponse` when its own snapshot is `session` and that of `buildSessionJson` is
`later`. -/
def setBusyResponseWith (requestId : Bytes) (session later : SessionSnapshot) :
    Handler Unit := do
  setServer fun server =>
    { server with
      busyRejectionCount := server.busyRejectionCount + 1
      lastBusyTimestamp := clock.seconds }
  let shown := shownOperation operation session
  setBusyHeaders session shown requestId
  setJson (refusalJson (-202) "JV-Link session is busy" shown later.json)

/-- Between the snapshots nothing has changed. -/
theorem setBusyResponse_eq (requestId : Bytes) (exchange : Exchange) :
    setBusyResponse clock operation requestId exchange =
      setBusyResponseWith clock operation requestId (exchange.server.session clock)
        (exchange.server.session clock) exchange := rfl

/-- A handler that finds the operation lock taken. -/
def refuseBusy (session later : SessionSnapshot) : Handler Unit :=
  handle
    (do
      let requestId ← ensureRequestId clock request
      setBusyResponseWith clock operation requestId session later)
    fun _ => answer500 "Internal Server Error"

end Handlers

/-- The answer that leaves the worker. -/
def WorkerServer.busyAnswer (server : WorkerServer) (connection : Connection) (clock : Clock)
    (request : Http.Request) (operation : Operation) (session later : SessionSnapshot) : Response :=
  server.serve connection request (refuseBusy clock request operation session later)

/-! ## The header fields -/

/-- A value that `set_header` keeps and that a lookup tells from an absent field. -/
def sendable (value : Bytes) : Bool := !value.isEmpty && isFieldValue value

def setUnless (absent : Bool) (name : String) (value : Bytes) (response : Response) : Response :=
  if absent then response else response.setHeader name value

/-- The response that `setBusyHeaders` leaves. -/
def busyHeaders (session : SessionSnapshot) (shown : String) (requestId : Bytes)
    (response : Response) : Response :=
  setUnless (!session.busy) "X-JVLink-Session-Elapsed-Ms" (decimal session.elapsedMs) <|
    setUnless (session.startedAt ≤ 0) "X-JVLink-Session-Started-At" (decimal session.startedAt) <|
    setUnless session.path.isEmpty "X-JVLink-Session-Path" (utf8 session.path) <|
    setUnless session.requestId.isEmpty "X-JVLink-Session-Request-Id" session.requestId <|
    (((({ response with status := 503 }.setHeader "X-Request-Id" requestId).setHeader
      "Retry-After" (decimal 1)).setHeader "X-JVLink-Busy" (utf8 "1")).setHeader
      "X-JVLink-Operation" (utf8 shown))

theorem setHeaderUnless_eq (absent : Bool) (name : String) (value : Bytes) (exchange : Exchange) :
    setHeaderUnless absent name value exchange =
      .ok () { exchange with response := setUnless absent name value exchange.response } := by
  cases absent <;> rfl

theorem setBusyHeaders_eq (session : SessionSnapshot) (shown : String) (requestId : Bytes)
    (exchange : Exchange) :
    setBusyHeaders session shown requestId exchange =
      .ok () { exchange with response := busyHeaders session shown requestId exchange.response } := by
  unfold setBusyHeaders busyHeaders
  simp only [bind, EStateM.bind, respond, Effects.update, setHeaderUnless_eq]

@[simp] theorem setUnless_status (absent : Bool) (name : String) (value : Bytes)
    (response : Response) : (setUnless absent name value response).status = response.status := by
  cases absent <;> rfl

@[simp] theorem busyHeaders_status (session : SessionSnapshot) (shown : String)
    (requestId : Bytes) (response : Response) :
    (busyHeaders session shown requestId response).status = 503 := by
  simp [busyHeaders]

section Values

variable {name field : String} {absent : Bool} {value : Bytes} {response : Response}

theorem setUnless_values_other (other : sameName (utf8 field) (utf8 name) = false) :
    (setUnless absent field value response).headers.values name = response.headers.values name := by
  cases absent
  · exact setHeader_values_other other
  · rfl

theorem setUnless_values_same (isName : isFieldName (utf8 name) = true) :
    (setUnless absent name value response).headers.values name =
      response.headers.values name ++ (if !absent && isFieldValue value then [value] else []) := by
  cases absent
  · simp [setUnless, Response.setHeader, Headers.values_set, isName, sameName]
  · simp [setUnless]

theorem setHeader_values_same (isName : isFieldName (utf8 name) = true) :
    (response.setHeader name value).headers.values name =
      response.headers.values name ++ (if isFieldValue value then [value] else []) := by
  simp [Response.setHeader, Headers.values_set, isName, sameName]

end Values

theorem isFieldValue_of_visible {value : Bytes}
    (visible : ∀ byte ∈ value, isFieldVchar byte = true) : isFieldValue value = true := by
  have first : value.head?.all isFieldVchar = true := by
    cases head : value.head? with
    | none => rfl
    | some byte => exact visible byte (List.mem_of_mem_head? head)
  have last : value.getLast?.all isFieldVchar = true := by
    cases end_ : value.getLast? with
    | none => rfl
    | some byte => exact visible byte (List.mem_of_mem_getLast? end_)
  have every : (value.all fun byte => isSpaceOrTab byte || isFieldVchar byte) = true :=
    List.all_eq_true.mpr fun byte inside => by simp [visible byte inside]
  simp [isFieldValue, first, last, every]

/-- Digits and a sign are visible characters, and not percent signs. -/
theorem visible_decimal (value : Int) :
    ∀ byte ∈ decimal value, isFieldVchar byte = true ∧ byte ≠ 37 := by
  have digits (number : Nat) : ∀ byte ∈ decimalNat number,
      isFieldVchar byte = true ∧ byte ≠ 37 := by
    intro byte inside
    have digit := Json.decimalNat_digits number byte inside
    unfold isDigit at digit
    unfold isFieldVchar
    grind
  cases value with
  | ofNat number => exact digits number
  | negSucc number =>
      intro byte inside
      obtain rfl | inside := List.mem_cons.mp inside
      · decide
      · exact digits (number + 1) byte inside

theorem isFieldValue_decimal (value : Int) : isFieldValue (decimal value) = true :=
  isFieldValue_of_visible fun byte inside => (visible_decimal value byte inside).1

/-- No field of a session has been written yet. -/
def Unmarked (response : Response) : Prop :=
  ∀ name ∈ ["X-JVLink-Busy", "X-JVLink-Operation", "X-JVLink-Session-Request-Id",
    "X-JVLink-Session-Path", "X-JVLink-Session-Started-At"], response.headers.values name = []

section Fields

variable {session : SessionSnapshot} {shown : String} {requestId : Bytes} {response : Response}

theorem busyHeaders_values_busy (unmarked : Unmarked response) :
    (busyHeaders session shown requestId response).headers.values "X-JVLink-Busy" = [utf8 "1"] := by
  have absent := unmarked "X-JVLink-Busy" (by decide)
  unfold busyHeaders
  simp (disch := decide) only [setUnless_values_other, setHeader_values_other,
    setHeader_values_same]
  have valid : isFieldValue (utf8 "1") = true := by decide
  simp [absent, valid]

theorem busyHeaders_values_operation (unmarked : Unmarked response)
    (valid : isFieldValue (utf8 shown) = true) :
    (busyHeaders session shown requestId response).headers.values "X-JVLink-Operation" =
      [utf8 shown] := by
  have absent := unmarked "X-JVLink-Operation" (by decide)
  unfold busyHeaders
  simp (disch := decide) only [setUnless_values_other, setHeader_values_other,
    setHeader_values_same]
  simp [absent, valid]

theorem busyHeaders_values_requestId (unmarked : Unmarked response) :
    (busyHeaders session shown requestId response).headers.values "X-JVLink-Session-Request-Id" =
      if sendable session.requestId then [session.requestId] else [] := by
  have absent := unmarked "X-JVLink-Session-Request-Id" (by decide)
  unfold busyHeaders
  simp (disch := decide) only [setUnless_values_other, setHeader_values_other,
    setUnless_values_same]
  simp [absent, sendable]

theorem busyHeaders_values_path (unmarked : Unmarked response) :
    (busyHeaders session shown requestId response).headers.values "X-JVLink-Session-Path" =
      if sendable (utf8 session.path) then [utf8 session.path] else [] := by
  have absent := unmarked "X-JVLink-Session-Path" (by decide)
  unfold busyHeaders
  simp (disch := decide) only [setUnless_values_other, setHeader_values_other,
    setUnless_values_same]
  simp [absent, sendable, utf8_isEmpty]

theorem busyHeaders_values_startedAt (unmarked : Unmarked response) :
    (busyHeaders session shown requestId response).headers.values "X-JVLink-Session-Started-At" =
      if 0 < session.startedAt then [decimal session.startedAt] else [] := by
  have absent := unmarked "X-JVLink-Session-Started-At" (by decide)
  unfold busyHeaders
  simp (disch := decide) only [setUnless_values_other, setHeader_values_other,
    setUnless_values_same]
  by_cases positive : 0 < session.startedAt
  · simp [absent, positive, isFieldValue_decimal]
  · simp [absent, positive]

end Fields

/-! ## The whole answer -/

section Answer

variable (clock : Clock) (request : Http.Request) (operation : Operation)
  (session later : SessionSnapshot)

theorem ensureRequestId_eq (exchange : Exchange) :
    ∃ requestId server, ensureRequestId clock request exchange =
      .ok requestId
        { server, response := exchange.response.setHeader "X-Request-Id" requestId } := by
  unfold ensureRequestId
  simp only [bind, EStateM.bind]
  cases (request.headers.value "X-Request-Id").isEmpty with
  | true => exact ⟨_, _, rfl⟩
  | false => exact ⟨_, _, rfl⟩

theorem setJson_eq {value : Json} (text : value.isText = true) (exchange : Exchange) :
    setJson value exchange =
      .ok () { exchange with
        response := exchange.response.setContent value.render jsonContentType } := by
  have dumped : value.dump = .ok value.render := if_pos text
  unfold setJson
  rw [dumped]
  rfl

theorem setJson_error {value : Json} (notText : value.isText = false) (exchange : Exchange) :
    ∃ what, setJson value exchange = .error what exchange := by
  unfold setJson Json.dump
  rw [if_neg (by simp [notText])]
  exact ⟨_, rfl⟩

theorem setBusyResponseWith_eq (requestId : Bytes) (exchange : Exchange) :
    ∃ server, setBusyResponseWith clock operation requestId session later exchange =
      setJson
        (refusalJson (-202) "JV-Link session is busy" (shownOperation operation session) later.json)
        { server,
          response :=
            busyHeaders session (shownOperation operation session) requestId exchange.response } := by
  unfold setBusyResponseWith
  simp only [bind, EStateM.bind, setServer, Effects.update, setBusyHeaders_eq]
  exact ⟨_, rfl⟩

theorem refuseBusy_shown (valid : validUtf8 later.requestId = true) (exchange : Exchange) :
    ∃ requestId server, refuseBusy clock request operation session later exchange =
      .ok () {
        server,
        response :=
          (busyHeaders session (shownOperation operation session) requestId
            (exchange.response.setHeader "X-Request-Id" requestId)).setContent
            (refusalJson (-202) "JV-Link session is busy" (shownOperation operation session)
              later.json).render jsonContentType } := by
  obtain ⟨requestId, server, identified⟩ := ensureRequestId_eq clock request exchange
  obtain ⟨counted, written⟩ := setBusyResponseWith_eq clock operation session later requestId
    { server, response := exchange.response.setHeader "X-Request-Id" requestId }
  have text : (refusalJson (-202) "JV-Link session is busy" (shownOperation operation session)
      later.json).isText = true := by
    rw [refusalJson_isText, session_isText, valid]
  refine ⟨requestId, counted, ?_⟩
  unfold refuseBusy handle
  simp only [bind_of_ok identified, written, setJson_eq text]

/-- A session whose request id is no text cannot be shown. -/
theorem refuseBusy_failed (invalid : validUtf8 later.requestId = false) (exchange : Exchange) :
    ∃ server response,
      refuseBusy clock request operation session later exchange = .ok () { server, response } ∧
        response.status = 500 ∧ response.body = (errorJson "Internal Server Error").render := by
  obtain ⟨requestId, server, identified⟩ := ensureRequestId_eq clock request exchange
  obtain ⟨counted, written⟩ := setBusyResponseWith_eq clock operation session later requestId
    { server, response := exchange.response.setHeader "X-Request-Id" requestId }
  have notText : (refusalJson (-202) "JV-Link session is busy"
      (shownOperation operation session) later.json).isText = false := by
    rw [refusalJson_isText, session_isText, invalid]
  obtain ⟨what, thrown⟩ := setJson_error notText
    { server := counted,
      response := busyHeaders session (shownOperation operation session) requestId
        (exchange.response.setHeader "X-Request-Id" requestId) }
  unfold refuseBusy handle answer500
  simp only [bind_of_ok identified, written, thrown]
  simp only [bind, EStateM.bind, respond, Effects.update, setJson_eq (errorJson_isText _)]
  exact ⟨_, _, rfl, rfl, rfl⟩

variable (server : WorkerServer) (connection : Connection)

theorem unmarked_start (requestId : Bytes) :
    Unmarked ((corsHeaders {}).setHeader "X-Request-Id" requestId) := by
  intro name marked
  simp only [List.mem_cons, List.not_mem_nil, or_false] at marked
  rcases marked with rfl | rfl | rfl | rfl | rfl <;>
    simp (disch := decide) only [corsHeaders, setHeader_values_other] <;> rfl

/-- What a client is sent when the second session can be shown. -/
theorem busyAnswer_shown (valid : validUtf8 later.requestId = true) :
    ∃ requestId response,
      Unmarked response ∧
      (server.busyAnswer connection clock request operation session later).status = 503 ∧
      (server.busyAnswer connection clock request operation session later).body =
        (refusalJson (-202) "JV-Link session is busy" (shownOperation operation session)
          later.json).render ∧
      ∀ name, isFraming name = false →
        (server.busyAnswer connection clock request operation session later).headers.values name =
          (busyHeaders session (shownOperation operation session) requestId
            response).headers.values name := by
  obtain ⟨requestId, after, answered⟩ := refuseBusy_shown clock request operation session later
    valid { server, response := httpServer.preRoutingHandler {} }
  refine ⟨requestId, _, unmarked_start requestId, ?_⟩
  generalize shown : (busyHeaders session (shownOperation operation session) requestId
    ((httpServer.preRoutingHandler {}).setHeader "X-Request-Id" requestId)).setContent
      (refusalJson (-202) "JV-Link session is busy" (shownOperation operation session)
        later.json).render jsonContentType = response at answered
  have status : response.status = 503 := by
    rw [← shown, Response.setContent_status, busyHeaders_status]
  have values : ∀ name, isFraming name = false → response.headers.values name =
      (busyHeaders session (shownOperation operation session) requestId
        ((corsHeaders {}).setHeader "X-Request-Id" requestId)).headers.values name := by
    intro name other
    rw [← shown]
    exact setContent_values_other other
  have described : httpServer.errorHandler response = response := by
    have busy := values "X-JVLink-Busy" (by decide)
    rw [busyHeaders_values_busy (unmarked_start requestId)] at busy
    have marked : response.getHeaderValue "X-JVLink-Busy" = utf8 "1" := by
      unfold Response.getHeaderValue Headers.value
      rw [busy]
      decide
    exact if_pos ⟨status, marked⟩
  obtain ⟨sameStatus, sameBody, sameValues⟩ :=
    httpServer.respond_error connection request (by omega) described
  unfold WorkerServer.busyAnswer WorkerServer.serve
  simp only [answered]
  refine ⟨sameStatus.trans status, sameBody.trans ?_, fun name other => ?_⟩
  · rw [← shown, Response.setContent_body]
  · exact (sameValues name other).trans (values name other)

/-- What it is sent otherwise. -/
theorem busyAnswer_failed (invalid : validUtf8 later.requestId = false) :
    (server.busyAnswer connection clock request operation session later).status = 500 ∧
      (server.busyAnswer connection clock request operation session later).body =
        (errorJson "Internal Server Error").render := by
  obtain ⟨after, response, answered, status, body⟩ := refuseBusy_failed clock request operation
    session later invalid { server, response := httpServer.preRoutingHandler {} }
  have described : httpServer.errorHandler response = response := by
    have some : response.body.isEmpty = false := by
      rw [body]
      decide
    unfold httpServer
    simp [status, some]
  obtain ⟨sameStatus, sameBody, -⟩ :=
    httpServer.respond_error connection request (by omega) described
  unfold WorkerServer.busyAnswer WorkerServer.serve
  simp only [answered]
  exact ⟨sameStatus.trans status, sameBody.trans body⟩

end Answer

end JVLinkServer.Worker
