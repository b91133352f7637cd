import JVLinkServer.JsonRoundTrip
import JVLinkServer.Worker.Health

namespace JVLinkServer.Worker

open JVLinkServer.Core Effects Http

/-! # Which reports can be made

A report shows the active session.  It can be dumped exactly when the request id of
that session is text; otherwise the handler answers with its error document.
-/

/-! ## Documents -/

@[simp] theorem textOrNull_isText (value : String) : (textOrNull value).isText = true := by
  unfold textOrNull
  split
  · rfl
  · exact validUtf8_utf8 value

@[simp] theorem timeOrNull_isText (value : Int) : (timeOrNull value).isText = true := by
  unfold timeOrNull
  split <;> rfl

@[simp] theorem bytesOrNull_isText (value : Bytes) :
    (bytesOrNull value).isText = validUtf8 value := by
  unfold bytesOrNull
  split
  · rename_i empty
    rw [List.isEmpty_iff.mp empty]
    exact (validUtf8_utf8 "").symm
  · rfl

@[simp] theorem textOrNull_canonical (value : String) : (textOrNull value).Canonical := by
  unfold textOrNull
  split <;> trivial

@[simp] theorem timeOrNull_canonical (value : Int) : (timeOrNull value).Canonical := by
  unfold timeOrNull
  split <;> trivial

@[simp] theorem bytesOrNull_canonical (value : Bytes) : (bytesOrNull value).Canonical := by
  unfold bytesOrNull
  split <;> trivial

theorem session_isText (snapshot : SessionSnapshot) :
    snapshot.json.isText = validUtf8 snapshot.requestId := by
  rw [Bool.eq_iff_iff]
  constructor
  · intro text
    have found : snapshot.json.member? "request_id" = some (bytesOrNull snapshot.requestId) := rfl
    rw [← bytesOrNull_isText]
    exact Json.isText_of_member? text found
  · intro valid
    apply Json.isText_record
    simp [Json.isText, valid]

theorem session_canonical (snapshot : SessionSnapshot) : snapshot.json.Canonical := by
  apply Json.canonical_record
  simp [Json.Canonical]

theorem buildSessionJson_isText (server : WorkerServer) (clock : Clock) :
    (server.buildSessionJson clock).isText = validUtf8 server.activeSession.requestId :=
  session_isText (server.session clock)

theorem jvlinkJson_isText (health : JVLinkHealthSnapshot) : (jvlinkJson health).isText = true := by
  have worker : (comWorkerJson health.worker).isText = true := by
    apply Json.isText_record
    simp [Json.isText]
  apply Json.isText_record
  simp [Json.isText, worker]

theorem jvlinkJson_canonical (health : JVLinkHealthSnapshot) : (jvlinkJson health).Canonical := by
  have worker : (comWorkerJson health.worker).Canonical := by
    apply Json.canonical_record
    simp [Json.Canonical]
  apply Json.canonical_record
  simp [Json.Canonical, worker]

theorem rejectionsJson_isText (count : UInt64) (lastTimestamp : Int) :
    (rejectionsJson count lastTimestamp).isText = true := by
  apply Json.isText_record
  simp [Json.isText]

theorem rejectionsJson_canonical (count : UInt64) (lastTimestamp : Int) :
    (rejectionsJson count lastTimestamp).Canonical := by
  apply Json.canonical_record
  simp [Json.Canonical]

theorem healthJson_isText (server : WorkerServer) (clock : Clock) :
    (server.healthJson clock).isText = validUtf8 server.activeSession.requestId := by
  rw [Bool.eq_iff_iff, ← buildSessionJson_isText server clock]
  constructor
  · intro text
    have found : (server.healthJson clock).member? "session" =
        some (server.buildSessionJson clock) := rfl
    exact Json.isText_of_member? text found
  · intro session
    apply Json.isText_record
    simp only [List.forall_mem_cons, List.not_mem_nil, false_imp_iff, implies_true, and_true]
    refine ⟨Json.isText_text _, rfl, ?_, ?_, ?_, session⟩
    · apply Json.isText_record
      simp [Json.isText]
    · apply Json.isText_record
      have httpServer : (Json.record [("status", .text "healthy"),
          ("port", .integer server.port)]).isText = true := by
        apply Json.isText_record
        simp [Json.isText]
      simp [httpServer, jvlinkJson_isText]
    · apply Json.isText_record
      simp [rejectionsJson_isText]

theorem healthJson_canonical (server : WorkerServer) (clock : Clock) :
    (server.healthJson clock).Canonical := by
  apply Json.canonical_record
  simp only [List.forall_mem_cons, List.not_mem_nil, false_imp_iff, implies_true, and_true]
  refine ⟨Json.canonical_text _, trivial, ?_, ?_, ?_, session_canonical _⟩
  · apply Json.canonical_record
    simp [Json.Canonical]
  · apply Json.canonical_record
    have httpServer : (Json.record [("status", .text "healthy"),
        ("port", .integer server.port)]).Canonical := by
      apply Json.canonical_record
      simp [Json.Canonical]
    simp [httpServer, jvlinkJson_canonical]
  · apply Json.canonical_record
    simp [rejectionsJson_canonical]

theorem refusalJson_isText (code : Int) (message operation : String) (session : Json) :
    (refusalJson code message operation session).isText = session.isText := by
  rw [Bool.eq_iff_iff]
  constructor
  · intro text
    have found : (refusalJson code message operation session).member? "session" = some session :=
      rfl
    exact Json.isText_of_member? text found
  · intro text
    have error : (Json.record [("code", .integer code), ("message", .text message)]).isText =
        true := by
      apply Json.isText_record
      simp [Json.isText]
    apply Json.isText_record
    simp [error, text]

theorem refusalJson_canonical (code : Int) (message operation : String) {session : Json}
    (canonical : session.Canonical) :
    (refusalJson code message operation session).Canonical := by
  have error : (Json.record [("code", .integer code), ("message", .text message)]).Canonical := by
    apply Json.canonical_record
    simp [Json.Canonical]
  apply Json.canonical_record
  simp [error, canonical]

/-! ## Answers -/

/-- The exchange is with a server that has this wrapper and this session, and no answer
is decided yet. -/
structure Serving (server : WorkerServer) (exchange : Exchange) : Prop where
  wrapper : exchange.server.wrapper = server.wrapper
  activeSession : exchange.server.activeSession = server.activeSession
  status : exchange.response.status = -1

structure Answers (status : Int) (holds : Json → Prop) (response : Response) : Prop where
  status_eq : response.status = status
  document : ∃ value : Json, value.Canonical ∧ value.dump = .ok response.body ∧ holds value

theorem setJson_answers {pre : Exchange → Prop} {status : Int} {value : Json}
    {holds : Json → Prop} {thrown : String → Exchange → Prop}
    (before : ∀ exchange, pre exchange → exchange.response.status = status)
    (canonical : value.Canonical) (text : value.isText = true) (shown : holds value) :
    Ensures pre (setJson value) (fun _ exchange => Answers status holds exchange.response)
      thrown := by
  have dumped : value.dump = .ok value.render := if_pos text
  intro exchange holdsBefore
  unfold setJson
  rw [dumped]
  exact ⟨before exchange holdsBefore, value, canonical, dumped, shown⟩

theorem setJson_throws {pre : Exchange → Prop} {value : Json}
    {post : Unit → Exchange → Prop} (notText : ¬ value.isText = true) :
    Ensures pre (setJson value) post (fun _ => pre) := by
  intro exchange holds
  unfold setJson Json.dump
  rw [if_neg notText]
  exact holds

variable (server : WorkerServer) (clock : Clock) (request : Request)

theorem ensureRequestId_serving {thrown : String → Exchange → Prop} :
    Ensures (Serving server) (ensureRequestId clock request) (fun _ => Serving server) thrown := by
  have next : Ensures (Serving server) (nextRequestId clock) (fun _ => Serving server) thrown := by
    refine Ensures.seq (fun _ => Serving server) (Ensures.update ?_) fun _ => ?_
    · exact fun exchange serving => ⟨serving.wrapper, serving.activeSession, serving.status⟩
    · exact Ensures.bind Ensures.peek fun exchange => Ensures.pure fun _ serving => serving
  refine Ensures.bind (Ensures.ite (fun _ => next) fun _ => Ensures.pure ?_) fun requestId => ?_
  · exact fun exchange serving => serving
  refine Ensures.seq (fun _ => Serving server) (Ensures.update ?_) fun _ => ?_
  · exact fun exchange serving => ⟨serving.wrapper, serving.activeSession, serving.status⟩
  · exact Ensures.pure fun _ serving => serving

theorem errorJson_canonical (message : String) : (errorJson message).Canonical := by
  apply Json.canonical_record
  have error : (Json.record [("message", .text message)]).Canonical := by
    apply Json.canonical_record
    simp
  simp [error]

theorem errorJson_isText (message : String) : (errorJson message).isText = true := by
  apply Json.isText_record
  have error : (Json.record [("message", .text message)]).isText = true := by
    apply Json.isText_record
    simp
  simp [error]

theorem answer500_answers {pre : Exchange → Prop} (message : String)
    {thrown : String → Exchange → Prop} :
    Ensures pre (answer500 message)
      (fun _ exchange => Answers 500 (fun _ => True) exchange.response) thrown := by
  refine Ensures.seq (fun _ exchange => exchange.response.status = 500) ?_ fun _ => ?_
  · exact Ensures.update fun exchange _ => rfl
  · exact setJson_answers (fun _ status => status) (errorJson_canonical _) (errorJson_isText _)
      trivial

theorem handleSession_shows (valid : validUtf8 server.activeSession.requestId = true) :
    Ensures (Serving server) (handleSession clock request)
      (fun _ exchange => Answers (-1) (fun _ => True) exchange.response) (fun _ _ => False) := by
  refine Ensures.handle ?_ fun _ => Ensures.vacuous
  refine Ensures.bind (ensureRequestId_serving server clock request) fun _ => ?_
  refine Ensures.bind Ensures.read fun exchange => ?_
  rintro _ ⟨rfl, serving⟩
  have text : (exchange.server.buildSessionJson clock).isText = true := by
    rw [buildSessionJson_isText, serving.activeSession]
    exact valid
  exact setJson_answers (fun _ (serving : Serving server _) => serving.status)
    (session_canonical _) text trivial exchange serving

theorem handleSession_fails (invalid : ¬ validUtf8 server.activeSession.requestId = true) :
    Ensures (Serving server) (handleSession clock request)
      (fun _ exchange => Answers 500 (fun _ => True) exchange.response) (fun _ _ => False) := by
  refine Ensures.catchAny ?_ fun what => answer500_answers what
  refine Ensures.bind (ensureRequestId_serving server clock request) fun _ => ?_
  refine Ensures.bind Ensures.read fun exchange => ?_
  rintro _ ⟨rfl, serving⟩
  have notText : ¬ (exchange.server.buildSessionJson clock).isText = true := by
    rw [buildSessionJson_isText, serving.activeSession]
    exact invalid
  exact (setJson_throws notText : Ensures (fun _ => True) _ _ _) exchange trivial

theorem handleHealth_shows {health : JVLinkHealthSnapshot} (wrapper : server.wrapper = some health)
    (operational : health.operational = true)
    (valid : validUtf8 server.activeSession.requestId = true) :
    Ensures (Serving server) (handleHealth clock request)
      (fun _ exchange => Answers (-1)
        (fun document => document.member? "status" = some (.text "healthy")) exchange.response)
      (fun _ _ => False) := by
  refine Ensures.handle ?_ fun _ => Ensures.vacuous
  refine Ensures.bind (ensureRequestId_serving server clock request) fun _ => ?_
  refine Ensures.bind Ensures.read fun exchange => ?_
  rintro _ ⟨rfl, serving⟩
  have sound : exchange.server.health.operational = true := by
    rw [WorkerServer.health, serving.wrapper, wrapper]
    exact operational
  have text : (exchange.server.healthJson clock).isText = true := by
    rw [healthJson_isText, serving.activeSession]
    exact valid
  have shown : (exchange.server.healthJson clock).member? "status" = some (.text "healthy") := by
    have member : (exchange.server.healthJson clock).member? "status" = some (.text
        (if exchange.server.health.operational then "healthy" else "unhealthy")) := rfl
    rw [member, sound]
    rfl
  simp only [sound]
  exact setJson_answers (fun _ (serving : Serving server _) => serving.status)
    (healthJson_canonical _ _) text shown exchange serving

theorem handleHealth_fails (invalid : ¬ validUtf8 server.activeSession.requestId = true) :
    Ensures (Serving server) (handleHealth clock request)
      (fun _ exchange => Answers 503
        (fun document => document.member? "status" = some (.text "unhealthy")) exchange.response)
      (fun _ _ => False) := by
  refine Ensures.catchAny ?_ fun what => ?_
  · refine Ensures.bind (ensureRequestId_serving server clock request) fun _ => ?_
    refine Ensures.bind Ensures.read fun exchange => ?_
    rintro _ ⟨rfl, serving⟩
    have notText : ¬ (exchange.server.healthJson clock).isText = true := by
      rw [healthJson_isText, serving.activeSession]
      exact invalid
    have throws : Ensures (fun _ => True) (setJson (exchange.server.healthJson clock))
        (fun _ exchange => Answers 503
          (fun document => document.member? "status" = some (.text "unhealthy")) exchange.response)
        (fun _ _ => True) := setJson_throws notText
    have marks : Ensures (fun _ => True)
        (respond fun response => { response with status := 503 })
        (fun _ _ => True) (fun _ _ => True) := Ensures.update fun _ _ => trivial
    exact Ensures.ite (fun _ => Ensures.bind marks fun _ => throws) (fun _ => throws) exchange trivial
  · refine Ensures.seq (fun _ exchange => exchange.response.status = 503) ?_ fun _ => ?_
    · exact Ensures.update fun exchange _ => rfl
    · refine setJson_answers (fun _ status => status) ?_ ?_ rfl
      · apply Json.canonical_record
        simp
      · apply Json.isText_record
        simp


/-! ## Refusals -/

/-- The busy answer: the code is -202. -/
def IsBusyAnswer (document : Json) : Prop :=
  ((document.member? "error").bind (Json.member? "code")) = some (.integer (-202))

section Busy

variable {server : WorkerServer} {thrown : String → Exchange → Prop}

theorem setHeaderUnless_keeps {kept : Exchange → Prop} (absent : Bool) (name : String)
    (value : Bytes)
    (changed : ∀ exchange, kept exchange →
      kept { exchange with response := exchange.response.setHeader name value }) :
    Ensures kept (setHeaderUnless absent name value) (fun _ => kept) thrown := by
  cases absent with
  | true => exact Ensures.pure fun _ holds => holds
  | false =>
      have set : Ensures kept (respond (·.setHeader name value)) (fun _ => kept) thrown :=
        Ensures.update changed
      exact set

/-- The exchange is with this server, and the answer is a refusal. -/
def Refusing (server : WorkerServer) (exchange : Exchange) : Prop :=
  exchange.server = server ∧ exchange.response.status = 503

theorem setBusyHeaders_refusing (session : SessionSnapshot) (shown : String) (requestId : Bytes) :
    Ensures (fun exchange => exchange.server = server) (setBusyHeaders session shown requestId)
      (fun _ => Refusing server) thrown := by
  have header : ∀ (name : String) (value : Bytes), Ensures (Refusing server)
      (respond (·.setHeader name value)) (fun _ => Refusing server) thrown :=
    fun name value => Ensures.update fun _ refusing => refusing
  have optional : ∀ (absent : Bool) (name : String) (value : Bytes), Ensures (Refusing server)
      (setHeaderUnless absent name value) (fun _ => Refusing server) thrown :=
    fun absent name value => setHeaderUnless_keeps absent name value fun _ refusing => refusing
  refine Ensures.seq (fun _ => Refusing server) (Ensures.update fun _ same => ⟨same, rfl⟩) fun _ => ?_
  refine Ensures.bind (header _ _) fun _ => ?_
  refine Ensures.bind (header _ _) fun _ => ?_
  refine Ensures.bind (header _ _) fun _ => ?_
  refine Ensures.bind (header _ _) fun _ => ?_
  refine Ensures.bind (optional _ _ _) fun _ => ?_
  refine Ensures.bind (optional _ _ _) fun _ => ?_
  refine Ensures.bind (optional _ _ _) fun _ => ?_
  exact optional _ _ _

variable (server : WorkerServer) (clock : Clock) (request : Request)

/-- A busy refusal up to its body, which can be made or not. -/
theorem setBusyResponse_ends (operation : Operation) (requestId : Bytes)
    {post : Unit → Exchange → Prop}
    (body : ∀ counted : WorkerServer, ∀ shown : String,
      (counted.buildSessionJson clock).isText = validUtf8 server.activeSession.requestId →
      Ensures (Refusing counted)
        (setJson (refusalJson (-202) "JV-Link session is busy" shown (counted.buildSessionJson clock)))
        post thrown) :
    Ensures (Serving server) (setBusyResponse clock operation requestId) post thrown := by
  refine Ensures.seq (fun _ => Serving server) (Ensures.update fun _ serving => ?_) fun _ => ?_
  · exact ⟨serving.wrapper, serving.activeSession, serving.status⟩
  refine Ensures.bind Ensures.read fun exchange => ?_
  rintro _ ⟨rfl, serving⟩
  have text : (exchange.server.buildSessionJson clock).isText =
      validUtf8 server.activeSession.requestId := by
    rw [buildSessionJson_isText, serving.activeSession]
  exact Ensures.bind (setBusyHeaders_refusing _ _ requestId) (fun _ => body _ _ text) exchange rfl

theorem setBusyResponse_answers (operation : Operation) (requestId : Bytes)
    (valid : validUtf8 server.activeSession.requestId = true) :
    Ensures (Serving server) (setBusyResponse clock operation requestId)
      (fun _ exchange => Answers 503 IsBusyAnswer exchange.response) thrown := by
  refine setBusyResponse_ends server clock operation requestId fun counted shown text => ?_
  refine setJson_answers (fun _ refusing => refusing.2) ?_ ?_ rfl
  · exact refusalJson_canonical _ _ _ (session_canonical _)
  · rw [refusalJson_isText, text, valid]

theorem setBusyResponse_throws (operation : Operation) (requestId : Bytes)
    (invalid : ¬ validUtf8 server.activeSession.requestId = true)
    {post : Unit → Exchange → Prop} :
    Ensures (Serving server) (setBusyResponse clock operation requestId) post
      (fun _ _ => True) := by
  refine setBusyResponse_ends server clock operation requestId fun counted shown text => ?_
  refine (setJson_throws ?_).raise fun _ _ _ => trivial
  rw [refusalJson_isText, text]
  exact invalid

theorem tryBeginOperation_busy {health : JVLinkHealthSnapshot}
    (wrapper : server.wrapper = some health) (operational : health.operational = true)
    (operation : Operation) (requestId : Bytes) {post : Exchange → Prop}
    (refused : Ensures (Serving server) (setBusyResponse clock operation requestId)
      (fun _ => post) thrown) :
    Ensures (Serving server) (tryBeginOperation clock operation requestId false)
      (fun began exchange => began = false ∧ post exchange) thrown := by
  have sound : Ensures (Serving server) (ensureWrapperOperational clock operation requestId)
      (fun sound exchange => sound = true ∧ Serving server exchange) thrown := by
    refine Ensures.bind Ensures.read fun exchange => ?_
    rintro _ ⟨rfl, serving⟩
    rw [serving.wrapper, wrapper]
    simp only [operational]
    exact ⟨rfl, serving⟩
  refine Ensures.bind sound fun began => ?_
  rintro exchange ⟨rfl, serving⟩
  exact Ensures.bind refused (fun _ => Ensures.pure fun _ holds => ⟨rfl, holds⟩) exchange serving

theorem handleOperation_busy {health : JVLinkHealthSnapshot}
    (wrapper : server.wrapper = some health) (operational : health.operational = true)
    (valid : validUtf8 server.activeSession.requestId = true) (operation : Operation)
    (served : Handler Unit) :
    Ensures (Serving server) (handleOperation clock request operation false served)
      (fun _ exchange => Answers 503 IsBusyAnswer exchange.response) (fun _ _ => False) := by
  refine Ensures.handle ?_ fun _ => Ensures.vacuous
  refine Ensures.bind (ensureRequestId_serving server clock request) fun requestId => ?_
  have refused : Ensures (Serving server) (tryBeginOperation clock operation requestId false)
      (fun began exchange => began = false ∧ Answers 503 IsBusyAnswer exchange.response)
      (fun _ _ => False) :=
    tryBeginOperation_busy server clock wrapper operational operation requestId
      (setBusyResponse_answers server clock operation requestId valid)
  refine Ensures.bind refused fun began => ?_
  rintro exchange ⟨rfl, answered⟩
  exact answered

theorem handleOperation_fails {health : JVLinkHealthSnapshot}
    (wrapper : server.wrapper = some health) (operational : health.operational = true)
    (invalid : ¬ validUtf8 server.activeSession.requestId = true) (operation : Operation)
    (served : Handler Unit) :
    Ensures (Serving server) (handleOperation clock request operation false served)
      (fun _ exchange => Answers 500 (fun _ => True) exchange.response) (fun _ _ => False) := by
  refine Ensures.catchAny ?_ fun _ => answer500_answers "Internal Server Error"
  refine Ensures.bind (ensureRequestId_serving server clock request) fun requestId => ?_
  have refused : Ensures (Serving server) (tryBeginOperation clock operation requestId false)
      (fun began _ => began = false ∧ False) (fun _ _ => True) :=
    tryBeginOperation_busy server clock wrapper operational operation requestId
      (setBusyResponse_throws server clock operation requestId invalid)
  refine Ensures.bind refused fun began => ?_
  rintro exchange ⟨_, impossible⟩
  exact impossible.elim

end Busy

/-! ## Through the server -/

theorem Answers.body_ne_nil {status : Int} {holds : Json → Prop} {response : Response}
    (answers : Answers status holds response) : response.body ≠ [] := by
  obtain ⟨value, canonical, dumped, _⟩ := answers.document
  unfold Json.dump at dumped
  split at dumped
  · obtain ⟨first, rest, rendered, _⟩ := Json.render_cons value canonical
    rw [← Except.ok.inj dumped, rendered]
    exact List.cons_ne_nil first rest
  · cases dumped

/-- What a client reads of an answer with a document. -/
theorem serve_answers {server : WorkerServer} {handler : Handler Unit} {status : Int}
    {holds : Json → Prop} (connection : Connection) {request : Request}
    (plain : request.ranges = [])
    (answers : Ensures (Serving server) handler
      (fun _ exchange => Answers status holds exchange.response) (fun _ _ => False)) :
    (server.serve connection request handler).status = (if status = -1 then 200 else status) ∧
      ∃ document, Json.parse (server.serve connection request handler).content = some document ∧
        holds document := by
  have ended := answers { server, response := httpServer.preRoutingHandler {} } ⟨rfl, rfl, rfl⟩
  unfold WorkerServer.serve
  cases run : handler { server, response := httpServer.preRoutingHandler {} } with
  | error what exchange =>
      rw [run] at ended
      exact ended.elim
  | ok value exchange =>
      rw [run] at ended
      have answered : Answers status holds exchange.response := ended
      have written := answered.body_ne_nil
      have kept : httpServer.errorHandler exchange.response = exchange.response := by
        simp [httpServer, written]
      obtain ⟨sameStatus, sameBody⟩ := Server.respond_whole connection exchange.response httpServer
        plain fun _ => kept
      obtain ⟨document, canonical, dumped, shown⟩ := answered.document
      refine ⟨by simpa [answered.status_eq] using sameStatus, document, ?_, shown⟩
      have content : (httpServer.respond connection request exchange.response).content =
          exchange.response.body := by
        simp [Response.content, sameBody, written]
      simpa [content] using Json.parse_dump canonical dumped

end JVLinkServer.Worker
