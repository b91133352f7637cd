import JVLinkServer.Supervisor.StreamingRelay
import JVLinkServer.Worker.HealthReports

namespace JVLinkServer.Supervisor

open Http Effects Worker

/-! # The fields of a relayed answer

Both servers write the fields that let a browser read their answers, and the supervisor
copies those of the worker beside its own.
-/

/-- No value ends its line. -/
def OneLine (headers : Headers) : Prop := ∀ header ∈ headers, 13 ∉ header.2 ∧ 10 ∉ header.2

/-- The fields that the worker sent come back as they were, and none that the supervisor
writes holds a second one. -/
structure FieldsIntact (request : Http.Request) (sent answer : Response) : Prop where
  once : ∀ name, shouldSkipResponseHeader (utf8 name) = false → sent.headers.has name = true →
    answer.headers.values name = sent.headers.values name
  upstream : OneLine (applyRequestHeaders request).headers
  downstream : OneLine answer.headers

/-- The action leaves the field of the pre-routing handler alone. -/
def KeepsCors {α : Type} (action : Handler α) : Prop :=
  ∀ values, Keeps (fun exchange =>
    exchange.response.headers.values "Access-Control-Allow-Origin" = values) action

/-- What the worker writes to the supervisor, which closes each connection. -/
def workerAnswer (server : WorkerServer) (handler : Http.Request → Handler Unit)
    (upstream : Http.Request) : Response :=
  server.serve { closes := true } upstream (handler upstream)

/-! ## The handlers of the worker -/

section Handlers

variable {α β : Type} {clock : Clock}

theorem KeepsCors.pure (value : α) : KeepsCors (Pure.pure value : Handler α) :=
  fun _ => Ensures.pure fun _ holds => holds

theorem KeepsCors.bind {action : Handler α} {next : α → Handler β} (first : KeepsCors action)
    (rest : ∀ value, KeepsCors (next value)) : KeepsCors (action >>= next) :=
  fun values => Ensures.bind (first values) fun value => rest value values

theorem KeepsCors.read : KeepsCors (Effects.read : Handler Exchange) := fun _ => Ensures.peek

theorem KeepsCors.handle {action : Handler α} {handler : String → Handler α}
    (body : KeepsCors action) (handled : ∀ what, KeepsCors (handler what)) :
    KeepsCors (Effects.handle action handler) :=
  fun values => Ensures.handle (body values) fun what => handled what values

theorem KeepsCors.ite {condition : Prop} [Decidable condition] {yes no : Handler α}
    (whenYes : KeepsCors yes) (whenNo : KeepsCors no) :
    KeepsCors (if condition then yes else no) := by
  split
  · exact whenYes
  · exact whenNo

theorem keepsCors_respond {change : Response → Response}
    (kept : ∀ response, (change response).headers.values "Access-Control-Allow-Origin" =
      response.headers.values "Access-Control-Allow-Origin") : KeepsCors (respond change) :=
  fun _ => Ensures.update fun exchange holds => (kept exchange.response).trans holds

theorem keepsCors_setServer (change : WorkerServer → WorkerServer) :
    KeepsCors (setServer change) :=
  fun _ => Ensures.update fun _ holds => holds

theorem keepsCors_setHeader {name : String}
    (other : sameName (utf8 name) (utf8 "Access-Control-Allow-Origin") = false) (value : Bytes) :
    KeepsCors (respond (·.setHeader name value)) :=
  keepsCors_respond fun _ => setHeader_values_other other

theorem keepsCors_setHeaderUnless {name : String}
    (other : sameName (utf8 name) (utf8 "Access-Control-Allow-Origin") = false) (absent : Bool)
    (value : Bytes) : KeepsCors (setHeaderUnless absent name value) :=
  .ite (.pure ()) (keepsCors_setHeader other value)

theorem keepsCors_setJson (value : Json) : KeepsCors (setJson value) := by
  unfold setJson
  split
  · exact keepsCors_respond fun _ => setContent_values_other (by decide)
  · exact fun _ => Ensures.throw fun _ holds => holds

theorem keepsCors_answer500 (message : String) : KeepsCors (answer500 message) :=
  .bind (keepsCors_respond fun _ => rfl) fun _ => keepsCors_setJson _

theorem keepsCors_ensureRequestId (request : Http.Request) :
    KeepsCors (ensureRequestId clock request) := by
  refine .bind (.ite ?_ (.pure _)) fun _ =>
    .bind (keepsCors_setHeader (by decide) _) fun _ => .pure _
  exact .bind (keepsCors_setServer _) fun _ => .bind .read fun _ => .pure _

theorem keepsCors_handleSession (request : Http.Request) :
    KeepsCors (handleSession clock request) :=
  .handle (.bind (keepsCors_ensureRequestId request) fun _ =>
    .bind .read fun _ => keepsCors_setJson _) keepsCors_answer500

theorem keepsCors_handleHealth (request : Http.Request) : KeepsCors (handleHealth clock request) := by
  refine .handle (.bind (keepsCors_ensureRequestId request) fun _ => .bind .read fun exchange => ?_)
    fun what => .bind (keepsCors_respond fun _ => rfl) fun _ => keepsCors_setJson _
  dsimp only
  split
  · exact .bind (keepsCors_respond fun _ => rfl) fun _ => keepsCors_setJson _
  · exact keepsCors_setJson _

theorem keepsCors_setBusyResponse (operation : Operation) (requestId : Bytes) :
    KeepsCors (setBusyResponse clock operation requestId) := by
  refine .bind (keepsCors_setServer _) fun _ => .bind .read fun _ =>
    .bind ?_ fun _ => keepsCors_setJson _
  unfold setBusyHeaders
  refine .bind (keepsCors_respond fun _ => rfl) fun _ =>
    .bind (keepsCors_setHeader (by decide) _) fun _ =>
    .bind (keepsCors_setHeader (by decide) _) fun _ =>
    .bind (keepsCors_setHeader (by decide) _) fun _ =>
    .bind (keepsCors_setHeader (by decide) _) fun _ =>
    .bind (keepsCors_setHeaderUnless (by decide) _ _) fun _ =>
    .bind (keepsCors_setHeaderUnless (by decide) _ _) fun _ =>
    .bind (keepsCors_setHeaderUnless (by decide) _ _) fun _ =>
    keepsCors_setHeaderUnless (by decide) _ _

theorem keepsCors_setUnavailableResponse (operation : Operation) (message : String)
    (requestId : Bytes) :
    KeepsCors (Worker.setUnavailableResponse clock operation message requestId) :=
  .bind (keepsCors_setServer _) fun _ => .bind .read fun _ =>
    .bind (keepsCors_respond fun _ => rfl) fun _ =>
    .bind (keepsCors_setHeaderUnless (by decide) _ _) fun _ =>
    .bind (keepsCors_setHeader (by decide) _) fun _ =>
    .bind (keepsCors_setHeader (by decide) _) fun _ => keepsCors_setJson _

/-- Every handler of an operation does, if what it serves does. -/
theorem keepsCors_handleOperation (request : Http.Request) (operation : Operation)
    (lockFree : Bool) {served : Handler Unit} (keeps : KeepsCors served) :
    KeepsCors (handleOperation clock request operation lockFree served) := by
  have operational (requestId : Bytes) :
      KeepsCors (ensureWrapperOperational clock operation requestId) := by
    refine .bind .read fun exchange => ?_
    split
    · exact .bind (keepsCors_setUnavailableResponse _ _ _) fun _ => .pure _
    · exact .ite (.pure _) (.bind (keepsCors_setUnavailableResponse _ _ _) fun _ => .pure _)
  have begins (requestId : Bytes) :
      KeepsCors (tryBeginOperation clock operation requestId lockFree) := by
    refine .bind (operational requestId) fun ready => .ite (.pure _) (.ite (.pure _) ?_)
    exact .bind (keepsCors_setBusyResponse _ _) fun _ => .pure _
  refine .handle (.bind (keepsCors_ensureRequestId request) fun requestId =>
    .bind (begins requestId) fun begun => ?_) fun _ => keepsCors_answer500 _
  exact .ite keeps (.pure _)

end Handlers

/-! ## Twice on the way back -/

section Relayed

variable {server : WorkerServer} {handler : Http.Request → Handler Unit} {request : Http.Request}

theorem workerAnswer_cors (server : WorkerServer) (keeps : KeepsCors (handler request)) :
    (workerAnswer server handler request).headers.values "Access-Control-Allow-Origin" =
      [utf8 "*"] := by
  have kept (response : Response) :
      (Worker.httpServer.errorHandler response).headers.values "Access-Control-Allow-Origin" =
        response.headers.values "Access-Control-Allow-Origin" := by
    unfold Worker.httpServer
    dsimp only
    split
    · rfl
    · split
      · rfl
      · exact setContent_values_other (by decide)
  have start : (corsHeaders {}).headers.values "Access-Control-Allow-Origin" = [utf8 "*"] := by
    decide
  have ended := keeps [utf8 "*"] { server, response := Worker.httpServer.preRoutingHandler {} } start
  refine (Server.respond_values_other _ _ _ kept (by decide)).trans ?_
  split
  · next exchange run =>
      rw [run] at ended
      exact ended
  · next what exchange run =>
      rw [run] at ended
      exact (setContent_values_other (by decide)).trans ended

theorem mem_readHeaders {headers read : Headers} (found : readHeaders headers = some read)
    {header : Header} (inside : header ∈ headers)
    (same : readHeaderLine (writeHeader header) = some header) : header ∈ read := by
  unfold readHeaders at found
  induction headers generalizing read with
  | nil => cases inside
  | cons first rest ih =>
      rw [List.mapM_cons] at found
      obtain ⟨firstRead, line, found⟩ := Option.bind_eq_some_iff.mp found
      obtain ⟨restRead, lines, found⟩ := Option.bind_eq_some_iff.mp found
      cases found
      obtain rfl | inside := List.mem_cons.mp inside
      · rw [same] at line
        cases line
        exact List.mem_cons_self
      · exact List.mem_cons_of_mem _ (ih lines inside)

/-- A name is made of token characters in any case. -/
theorem isTokenChar_of_toLower {byte : UInt8} (token : isTokenChar (toLower byte) = true) :
    isTokenChar byte = true := by
  have all : ∀ code : Fin 256, isTokenChar (toLower (UInt8.ofNat code)) = true →
      isTokenChar (UInt8.ofNat code) = true := by decide +kernel
  have same : UInt8.ofNat byte.toNat = byte := UInt8.ofNat_toNat
  have found := all ⟨byte.toNat, byte.toNat_lt⟩
  rw [same] at found
  exact found token

theorem isFieldName_of_sameName {name : Bytes}
    (same : sameName name (utf8 "Access-Control-Allow-Origin") = true) :
    isFieldName name = true ∧ name.length = 27 := by
  have lower := beq_iff_eq.mp same
  have length : name.length = 27 := by
    have mapped := congrArg List.length lower
    rw [List.length_map, List.length_map] at mapped
    exact mapped
  have tokens : ((utf8 "Access-Control-Allow-Origin").map toLower).all isTokenChar = true := by
    decide
  rw [← lower, List.all_map, List.all_eq_true] at tokens
  have filled : name.isEmpty = false := by
    cases name with
    | nil => cases length
    | cons => rfl
  rw [isFieldName, filled, List.all_eq_true.mpr fun byte inside =>
    isTokenChar_of_toLower (tokens byte inside)]
  exact ⟨rfl, length⟩

/-- The field of the worker's pre-routing handler is read as it was written. -/
theorem readHeaderLine_cors {header : Header}
    (named : sameName header.1 (utf8 "Access-Control-Allow-Origin") = true)
    (any : header.2 = utf8 "*") : readHeaderLine (writeHeader header) = some header := by
  obtain ⟨name, value⟩ := header
  obtain ⟨valid, length⟩ := isFieldName_of_sameName named
  change value = utf8 "*" at any
  rw [any]
  have field : isField (name, utf8 "*") = true := by
    have star : isFieldValue (utf8 "*") = true := by decide
    simp only [isField, valid, star, Bool.and_self]
  have short : (writeHeader (name, utf8 "*")).length + 2 ≤ headerMaxLength := by
    rw [length_writeHeader, length]
    decide
  have plain : 37 ∉ utf8 "*" := by decide
  have readable : isReadable (name, utf8 "*") = true := by
    rw [isReadable, field, decide_eq_true short, Bool.and_self]
  rw [readHeaderLine_writeHeader field, if_pos readable, readValue_plain plain]

theorem mem_values {headers : Headers} {header : Header} (inside : header ∈ headers)
    {name : String} (named : sameName header.1 (utf8 name) = true) :
    header.2 ∈ headers.values name :=
  List.mem_map_of_mem (List.mem_filter.mpr ⟨inside, named⟩)

/-- The supervisor's error handler touches the content type only. -/
theorem errorHandler_values {name : String} (other : isFraming name = false)
    (response : Response) :
    (Supervisor.httpServer.errorHandler response).headers.values name =
      response.headers.values name := by
  unfold Supervisor.httpServer
  dsimp only
  split
  · rfl
  · split
    · rfl
    · exact setContent_values_other other

/-- What was sent once arrives twice. -/
theorem serveProxied_cors {upstream : Response} (send : Http.Request → Option Response)
    (sent : send (applyRequestHeaders request) = some upstream)
    {header : Header} (copied : header ∈ upstream.headers)
    (named : sameName header.1 (utf8 "Access-Control-Allow-Origin") = true)
    (connection : Connection) :
    2 ≤ ((serveProxied connection request true send).headers.values
      "Access-Control-Allow-Origin").length := by
  have own : (Supervisor.httpServer.preRoutingHandler {}).headers.values
      "Access-Control-Allow-Origin" = [utf8 "*"] := by decide
  have also := List.length_pos_of_mem (mem_values copied named)
  rw [serveProxied, Server.respond_values_other _ _ _ (errorHandler_values (by decide)) (by decide),
    proxyRequest_values sent (by decide), own, List.length_append, List.length_singleton]
  omega

end Relayed

/-- Whatever the request and the answer, an answer that is passed on does not come back with
its fields intact. -/
theorem relayed_fields_doubled (connection : Connection) (request : Http.Request)
    (server : WorkerServer) (handler : Http.Request → Handler Unit) (upstream : Response)
    (keeps : KeepsCors (handler (applyRequestHeaders request)))
    (received : receive (workerAnswer server handler (applyRequestHeaders request)) =
      some upstream) :
    ¬ FieldsIntact request (workerAnswer server handler (applyRequestHeaders request))
      (serveProxied connection request true fun request =>
        receive (workerAnswer server handler request)) := by
  intro intact
  have once := workerAnswer_cors server keeps
  have inside : utf8 "*" ∈ (workerAnswer server handler
      (applyRequestHeaders request)).headers.values "Access-Control-Allow-Origin" := by
    rw [once]
    exact List.mem_singleton_self _
  obtain ⟨header, found, any⟩ := List.mem_map.mp inside
  obtain ⟨inside, named⟩ := List.mem_filter.mp found
  have copied : header ∈ upstream.headers :=
    mem_readHeaders (receive_head received).2.1 inside (readHeaderLine_cors named any)
  have doubled := serveProxied_cors (fun request => receive (workerAnswer server handler request))
    received copied named connection
  have kept := intact.once "Access-Control-Allow-Origin" (by decide)
    (List.any_eq_true.mpr ⟨header, inside, named⟩)
  rw [kept, once] at doubled
  exact absurd doubled (by decide)

def idleWorker : WorkerServer where
  port := 8765
  wrapper := none

def sessionRequest (header : Header) : Http.Request where
  method := "GET"
  path := "/session"
  headers := [header]

theorem session_fields_doubled :
    ∃ upstream,
      receive (workerAnswer idleWorker (handleSession {})
        (applyRequestHeaders (sessionRequest (utf8 "X-Request-Id", utf8 "client-7")))) =
          some upstream ∧
      ¬ FieldsIntact (sessionRequest (utf8 "X-Request-Id", utf8 "client-7"))
        (workerAnswer idleWorker (handleSession {})
          (applyRequestHeaders (sessionRequest (utf8 "X-Request-Id", utf8 "client-7"))))
        (serveProxied {} (sessionRequest (utf8 "X-Request-Id", utf8 "client-7")) true
          fun request => receive (workerAnswer idleWorker (handleSession {}) request)) := by
  have read : (receive (workerAnswer idleWorker (handleSession {})
      (applyRequestHeaders
        (sessionRequest (utf8 "X-Request-Id", utf8 "client-7"))))).isSome = true := by
    decide +kernel
  obtain ⟨upstream, received⟩ := Option.isSome_iff_exists.mp read
  exact ⟨upstream, received, relayed_fields_doubled {} _ _ _ upstream
    (keepsCors_handleSession _) received⟩

/-- A header that any client can send, and what it becomes on the way to the worker. -/
theorem escaped_line_injected :
    parseHeader (utf8 "X-Note: a%0D%0AX-Injected: 1") =
        some (utf8 "X-Note", utf8 "a\r\nX-Injected: 1") ∧
      ¬ ∀ (request : Http.Request) (upstream : Response),
        receive (workerAnswer idleWorker (handleSession {}) (applyRequestHeaders request)) =
          some upstream →
        FieldsIntact request
          (workerAnswer idleWorker (handleSession {}) (applyRequestHeaders request))
          (serveProxied {} request true fun request =>
            receive (workerAnswer idleWorker (handleSession {}) request)) := by
  refine ⟨by decide, fun intact => ?_⟩
  have read : (receive (workerAnswer idleWorker (handleSession {})
      (applyRequestHeaders
        (sessionRequest (utf8 "X-Note", utf8 "a\r\nX-Injected: 1"))))).isSome = true := by
    decide +kernel
  obtain ⟨upstream, received⟩ := Option.isSome_iff_exists.mp read
  have clean := (intact _ upstream received).upstream
    (utf8 "X-Note", utf8 "a\r\nX-Injected: 1") (by decide)
  exact absurd clean (by decide)

end JVLinkServer.Supervisor
