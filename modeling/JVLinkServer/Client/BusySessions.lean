import JVLinkServer.Client.HttpTransport
import JVLinkServer.Worker.BusyAnswers

namespace JVLinkServer.Client

open Transition Worker Http

/-! # The session in a busy error

A `JVBusyError` is put together from the header fields and the body of one answer, which
the worker filled from two snapshots.
-/

/-! ## The answer in the hands of the client -/

/-- `response.headers.get(name)`, which joins fields of one name. -/
def headerValue (headers : Headers) (name : String) : Option Bytes :=
  match headers.values name with
  | [] => none
  | first :: rest => some (first ++ rest.flatMap (utf8 ", " ++ ·))

/-- An answer as `httpx` documents it. -/
def receivedAnswer (response : Http.Response) : HttpResponse where
  status := response.status.toNat
  header := headerValue response.headers
  content := .ok response.content

/-- `httpx` reads this answer as it documents. -/
def ReadsAnswer (receives : Http.Response → HttpResponse) (response : Http.Response) : Prop :=
  receives response = receivedAnswer response

section Parsing

variable (library : PythonLibrary)

/-- `_parse_server_error`, for a response whose body has been read. -/
def parseServerError (response : HttpResponse) (text : Bytes) : Except PythonException StatusError :=
  let refused : StatusError :=
    { message := library.decodeReplacing text
      code := .integer response.status
      retryAfter := parseRetryAfter response.header
      busyContext := extractBusyContext response.header .null }
  match library.loadsBytes text with
  | .error (.jsonDecodeError _) | .error .unicodeDecodeError => .ok refused
  | .error exception => .error (.builtin exception)
  | .ok body =>
      let refused := { refused with busyContext := extractBusyContext response.header body }
      match body.member? "error" with
      | some (.object members) =>
          let info := Json.object members
          .ok { refused with
            message :=
              match info.member? "message" with
              | some (.string message) =>
                  if pythonStrip (characters message) = [] then refused.message else message
              | _ => refused.message
            code :=
              match info.member? "code" with
              | some code => if isInt code then code else refused.code
              | none => refused.code }
      | _ => .ok refused

/-- `_raise_server_error` after `_parse_server_error`. -/
def serverErrorException (response : HttpResponse) : PythonException :=
  match response.content with
  | .error exception => .httpx exception
  | .ok text =>
      match parseServerError library response text with
      | .error exception => exception
      | .ok refused =>
          match buildErrorForCode library refused.code refused.message .serverError
              refused.retryAfter refused.busyContext with
          | .ok error => .jvLink { error with cause := some (.httpStatusError response.status) }
          | .error exception => .builtin exception

/-- What a request for an operation raises on a status that is no success.  Only the
queries stream their responses. -/
def refusalException (operation : Operation) (response : HttpResponse) : PythonException :=
  if operation.streams then statusException library response
  else serverErrorException library response

end Parsing

/-! ## One session or two -/

/-- Every field that is there is the session's. -/
structure ComesFrom (context : BusyContext) (session : SessionSnapshot) : Prop where
  operation : context.operation = some (utf8 session.operation)
  path : ∀ path, context.path = some path → path = utf8 session.path
  requestId : ∀ requestId, context.requestId = some requestId → requestId = session.requestId
  startedAt : ∀ startedAt, context.startedAt = some startedAt → startedAt = session.startedAt
  dataspec : ∀ dataspec, context.dataspec = some dataspec → dataspec = utf8 session.dataspec
  key : ∀ key, context.key = some key → key = utf8 session.key

/-- The operation is that of the refused request, and there is nothing else. -/
structure NoSession (context : BusyContext) (operation : Operation) : Prop where
  operation : context.operation = some (utf8 operation.name)
  path : context.path = none
  requestId : context.requestId = none
  startedAt : context.startedAt = none
  dataspec : context.dataspec = none
  key : context.key = none

/-- The error describes one of the two sessions that its answer was filled from, or
none. -/
def OneSession (operation : Operation) (session later : SessionSnapshot) (context : BusyContext) :
    Prop :=
  ComesFrom context session ∨ ComesFrom context later ∨ NoSession context operation

/-- The second session has nothing for the fields that only the body fills, or the same as
the first one. -/
structure AddsNothing (session later : SessionSnapshot) : Prop where
  path : sendable (utf8 session.path) ∨ later.path = "" ∨ later.path = session.path
  requestId : sendable session.requestId ∨ later.requestId = [] ∨
    later.requestId = session.requestId
  startedAt : 0 < session.startedAt ∨ later.startedAt ≤ 0
  dataspec : later.dataspec = "" ∨ later.dataspec = session.dataspec
  key : later.key = "" ∨ later.key = session.key

/-- What the header fields tell is true of the second session. -/
structure HeadersFit (operation : Operation) (session later : SessionSnapshot) : Prop where
  operation : shownOperation operation session = later.operation
  path : sendable (utf8 session.path) → session.path = later.path
  requestId : sendable session.requestId → session.requestId = later.requestId
  startedAt : 0 < session.startedAt → session.startedAt = later.startedAt

/-! ## What the client reads -/

/-- The library reads the body of the answer as the document that it is. -/
def ReadsBody (library : PythonLibrary) (response : Http.Response) : Prop :=
  library.loadsBytes response.content = plainJson response.content

theorem readsBody_plain (response : Http.Response) : ReadsBody plainLibrary response := rfl

theorem content_of_document {value : Json} (canonical : value.Canonical)
    (text : value.isText = true) {response : Http.Response} (body : response.body = value.render) :
    response.content = value.render ∧ plainJson response.content = .ok value := by
  obtain ⟨first, rest, written, -⟩ := Json.render_cons value canonical
  have whole : response.content = value.render := by
    unfold Http.Response.content
    rw [body, written]
    rfl
  have parsed := Json.parse_dump canonical (if_pos text : value.dump = .ok value.render)
  refine ⟨whole, ?_⟩
  unfold plainJson
  rw [whole, parsed]

section Refusals

variable (library : PythonLibrary) (server : WorkerServer) (connection : Connection)
  (clock : Clock) (request : Http.Request) (operation : Operation)
  (session later : SessionSnapshot)

/-- Both ways of reading a refusal take the code and the context from the body. -/
theorem refusalException_of_document (response : HttpResponse) {text : Bytes} {document : Json}
    {members : List (Bytes × Json)} (content : response.content = .ok text)
    (read : library.loadsBytes text = .ok document)
    (described : document.member? "error" = some (.object members)) :
    ∃ message, refusalException library operation response =
      match buildErrorForCode library
          (match (Json.object members).member? "code" with
            | some code => if isInt code then code else .integer response.status
            | none => .integer response.status)
          message .serverError (parseRetryAfter response.header)
          (extractBusyContext response.header document) with
      | .ok error => .jvLink { error with cause := some (.httpStatusError response.status) }
      | .error exception => .builtin exception := by
  unfold refusalException
  cases operation.streams with
  | true =>
      simp only [if_true, statusException, parseHttpStatusError, content, read, described]
      cases (library.decodeReplacing text).isEmpty <;> exact ⟨_, rfl⟩
  | false =>
      simp only [Bool.false_eq_true, if_false, serverErrorException, parseServerError, content,
        read, described]
      exact ⟨_, rfl⟩

/-- A busy answer that has a body raises a `JVBusyError` with the context of its fields. -/
theorem refusal_shown (valid : validUtf8 later.requestId = true)
    (reads : ReadsBody library
      (server.busyAnswer connection clock request operation session later)) :
    ∃ error, refusalException library operation
        (receivedAnswer (server.busyAnswer connection clock request operation session later)) =
          .jvLink error ∧ error.cls = .busyError ∧
      error.busyContext = extractBusyContext
        (headerValue (server.busyAnswer connection clock request operation session later).headers)
        (refusalJson (-202) "JV-Link session is busy" (shownOperation operation session)
          later.json) := by
  obtain ⟨-, -, -, status, body, -⟩ := busyAnswer_shown clock request operation session later
    server connection valid
  have canonical := refusalJson_canonical (-202) "JV-Link session is busy"
    (shownOperation operation session) (session_canonical later)
  have text : (refusalJson (-202) "JV-Link session is busy" (shownOperation operation session)
      later.json).isText = true := by
    rw [refusalJson_isText, session_isText, valid]
  obtain ⟨-, plain⟩ := content_of_document canonical text body
  obtain ⟨message, raised⟩ := refusalException_of_document library operation
    (receivedAnswer (server.busyAnswer connection clock request operation session later))
    rfl (reads.trans plain) rfl
  exact ⟨_, raised, rfl, rfl⟩

/-- An answer without one raises another error. -/
theorem refusal_failed (invalid : validUtf8 later.requestId = false)
    (reads : ReadsBody library
      (server.busyAnswer connection clock request operation session later)) {error : JVLinkError}
    (raised : refusalException library operation
      (receivedAnswer (server.busyAnswer connection clock request operation session later)) =
        .jvLink error) : error.cls ≠ .busyError := by
  obtain ⟨status, body⟩ := busyAnswer_failed clock request operation session later
    server connection invalid
  obtain ⟨-, plain⟩ := content_of_document (errorJson_canonical "Internal Server Error")
    (errorJson_isText _) body
  obtain ⟨message, other⟩ := refusalException_of_document library operation
    (receivedAnswer (server.busyAnswer connection clock request operation session later))
    rfl (reads.trans plain) rfl
  rw [other] at raised
  simp only [receivedAnswer, status] at raised
  cases raised
  exact nofun

end Refusals

/-! ## Where each field comes from -/

/-- What a snapshot can be: the published session of a request, or none.  The clock counts
seconds in 64 bits. -/
inductive Published : SessionSnapshot → Prop
  | none (now : Int) (watchActive : Bool) : Published (getSessionSnapshot {} now watchActive)
  | session (incoming : IncomingRequest) (startedAt : Int) (watching : Bool) (now : Int)
      (watchActive : Bool) (fits : startedAt < 2 ^ 63) :
      Published (getSessionSnapshot (makeSessionSnapshot incoming startedAt watching) now watchActive)

theorem Published.shownOperation {session : SessionSnapshot} (published : Published session)
    (operation : Operation) :
    ∃ shown : Operation, Worker.shownOperation operation session = shown.name ∧
      (session.operation = "" ∧ shown = operation ∨ session.operation = shown.name) := by
  cases published with
  | none now watchActive => exact ⟨operation, rfl, .inl ⟨rfl, rfl⟩⟩
  | session incoming startedAt watching now watchActive fits =>
      refine ⟨incoming.operation, ?_, .inr rfl⟩
      have nonempty : incoming.operation.name.isEmpty = false := by
        cases incoming.operation <;> rfl
      exact if_neg (by simp [getSessionSnapshot, makeSessionSnapshot, nonempty])

theorem Published.fits {session : SessionSnapshot} (published : Published session) :
    session.startedAt < 2 ^ 63 := by
  cases published with
  | none now watchActive => exact (by decide : (0 : Int) < 2 ^ 63)
  | session incoming startedAt watching now watchActive fits => exact fits

theorem Published.empty {session : SessionSnapshot} (published : Published session)
    (unnamed : session.operation = "") :
    session.path = "" ∧ session.requestId = [] ∧ session.startedAt ≤ 0 ∧ session.dataspec = "" ∧
      session.key = "" := by
  cases published with
  | none now watchActive => exact ⟨rfl, rfl, le_refl _, rfl, rfl⟩
  | session incoming startedAt watching now watchActive fits =>
      have named : incoming.operation.name ≠ "" := by
        cases incoming.operation <;> decide
      contradiction

theorem operation_sendable (operation : Operation) : sendable (utf8 operation.name) = true := by
  cases operation <;> decide

/-- A text, unless it is empty. -/
def nonempty (value : Bytes) : Option Bytes := if value.isEmpty then none else some value

theorem string?_textOrNull (value : String) :
    (textOrNull value).string? = nonempty (utf8 value) := by
  unfold textOrNull nonempty
  rw [utf8_isEmpty]
  split <;> rfl

theorem string?_bytesOrNull (value : Bytes) : (bytesOrNull value).string? = nonempty value := by
  unfold bytesOrNull nonempty
  split <;> rfl

/-- The first of two fields that is there. -/
theorem firstText_pair (value : Bytes) (fallback : Bytes) :
    firstText [if sendable value then some value else none, nonempty fallback] =
      if sendable value then some value else nonempty fallback := by
  have fromBody : firstText [none, nonempty fallback] = nonempty fallback := by
    unfold firstText nonempty
    cases empty : fallback.isEmpty <;> simp [empty]
  cases able : sendable value with
  | false => exact fromBody
  | true =>
      have nonempty : value.isEmpty = false := by
        simpa [sendable] using (Bool.and_eq_true_iff.mp able).1
      simp [firstText, nonempty]

/-! ## The fields of a busy error -/

section Fields

variable (server : WorkerServer) (connection : Connection) (clock : Clock) (request : Http.Request)
  (operation : Operation) {session later : SessionSnapshot}

/-- The first snapshot fills what its header fields can, and the second one the rest. -/
structure FilledFrom (shown : String) (session later : SessionSnapshot) (context : BusyContext) :
    Prop where
  operation : context.operation = some (utf8 shown)
  path : context.path =
    if sendable (utf8 session.path) then some (utf8 session.path)
    else nonempty (utf8 later.path)
  requestId : context.requestId =
    if sendable session.requestId then some session.requestId else nonempty later.requestId
  startedAt : context.startedAt =
    if 0 < session.startedAt then some session.startedAt
    else if 0 < later.startedAt then some later.startedAt else none
  dataspec : context.dataspec = nonempty (utf8 later.dataspec)
  key : context.key = nonempty (utf8 later.key)

theorem headerValue_optional {headers : Headers} {name : String} {value : Bytes}
    {condition : Prop} [Decidable condition]
    (values : headers.values name = if condition then [value] else []) :
    headerValue headers name = if condition then some value else none := by
  unfold headerValue
  rw [values]
  by_cases holds : condition <;> simp [holds]

/-- The time in the header field is read as the number that was written. -/
theorem parseOptionalInt_decimal {value : Int} (positive : 0 < value) (fits : value < 2 ^ 63) :
    parseOptionalInt (some (.string (decimal value))) = some value := by
  obtain ⟨number, rfl⟩ := Int.eq_ofNat_of_zero_le positive.le
  have short : (Nat.toDigits 10 number).length ≤ 19 :=
    (Nat.length_toDigits_le_iff (by decide) (by decide)).mpr (by omega)
  exact pythonInt?_decimalNat number (by omega)

theorem parseOptionalInt_timeOrNull (value : Int) :
    parseOptionalInt (some (timeOrNull value)) = if 0 < value then some value else none := by
  unfold timeOrNull
  split <;> rfl

/-- The header fields of a busy answer, as the client sees them. -/
structure BusyFields (shown : String) (session : SessionSnapshot) (header : String → Option Bytes) :
    Prop where
  busy : header "X-JVLink-Busy" = some (utf8 "1")
  operation : header "X-JVLink-Operation" = some (utf8 shown)
  path : header "X-JVLink-Session-Path" =
    if sendable (utf8 session.path) then some (utf8 session.path) else none
  requestId : header "X-JVLink-Session-Request-Id" =
    if sendable session.requestId then some session.requestId else none
  startedAt : header "X-JVLink-Session-Started-At" =
    if 0 < session.startedAt then some (decimal session.startedAt) else none

theorem busyAnswer_fields (published : Published session)
    (valid : validUtf8 later.requestId = true) :
    BusyFields (shownOperation operation session) session
      (headerValue
        (server.busyAnswer connection clock request operation session later).headers) := by
  obtain ⟨requestId, response, unmarked, -, -, values⟩ :=
    busyAnswer_shown clock request operation session later server connection valid
  obtain ⟨shown, named, -⟩ := published.shownOperation operation
  have able := operation_sendable shown
  rw [← named] at able
  have value := (Bool.and_eq_true_iff.mp able).2
  constructor
  · have values := (values _ (by decide)).trans (busyHeaders_values_busy unmarked)
    simp [headerValue, values]
  · have values := (values _ (by decide)).trans (busyHeaders_values_operation unmarked value)
    simp [headerValue, values]
  · exact headerValue_optional
      ((values _ (by decide)).trans (busyHeaders_values_path unmarked))
  · exact headerValue_optional
      ((values _ (by decide)).trans (busyHeaders_values_requestId unmarked))
  · exact headerValue_optional
      ((values _ (by decide)).trans (busyHeaders_values_startedAt unmarked))

theorem extractBusyContext_filled {header : String → Option Bytes} {shown message : String}
    {code : Int} (fields : BusyFields shown session header) (able : sendable (utf8 shown) = true)
    (fits : session.startedAt < 2 ^ 63) :
    FilledFrom shown session later
      (extractBusyContext header (refusalJson code message shown later.json)) := by
  have shape : (refusalJson code message shown later.json).member? "session" = some later.json := by
    simp [refusalJson, Json.member?_record]
  have isObject : later.json.isObject = true := rfl
  have named : (utf8 shown).isEmpty = false := by
    simpa using (Bool.and_eq_true_iff.mp able).1
  have path : later.json.member? "path" = some (textOrNull later.path) := by
    simp [SessionSnapshot.json, Json.member?_record]
  have requestId : later.json.member? "request_id" = some (bytesOrNull later.requestId) := by
    simp [SessionSnapshot.json, Json.member?_record]
  have startedAt : later.json.member? "started_at" = some (timeOrNull later.startedAt) := by
    simp [SessionSnapshot.json, Json.member?_record]
  have dataspec : later.json.member? "dataspec" = some (textOrNull later.dataspec) := by
    simp [SessionSnapshot.json, Json.member?_record]
  have key : later.json.member? "key" = some (textOrNull later.key) := by
    simp [SessionSnapshot.json, Json.member?_record]
  unfold extractBusyContext
  rw [if_neg (by simp [fields.busy])]
  simp only [shape, Option.filter_some, isObject, if_true, Option.bind_some]
  constructor
  · simp [firstText, fields.operation, named]
  · simp only [fields.path, path, Option.bind_some, string?_textOrNull, firstText_pair]
  · simp only [fields.requestId, requestId, Option.bind_some, string?_bytesOrNull, firstText_pair]
  · simp only [fields.startedAt, startedAt, parseOptionalInt_timeOrNull]
    by_cases positive : 0 < session.startedAt
    · simp [positive, parseOptionalInt_decimal positive fits]
    · simp [positive, parseOptionalInt]
  · simp only [dataspec, Option.bind_some, string?_textOrNull]
  · simp only [key, Option.bind_some, string?_textOrNull]

end Fields

/-! ## When it is one session -/

theorem utf8_eq_nil {text : String} : utf8 text = [] ↔ text = "" :=
  utf8_inj text ""

section Sources

variable {first second : Bytes}

theorem nonempty_from :
    (∀ value, nonempty second = some value → value = first) ↔ second = [] ∨ second = first := by
  unfold nonempty
  cases second <;> simp

theorem filled_from_first :
    (∀ value, (if sendable first then some first else nonempty second) = some value →
      value = first) ↔ sendable first ∨ second = [] ∨ second = first := by
  cases able : sendable first with
  | true => simp
  | false => simpa using nonempty_from

theorem filled_from_second :
    (∀ value, (if sendable first then some first else nonempty second) = some value →
      value = second) ↔ (sendable first → first = second) := by
  cases able : sendable first with
  | true => simp
  | false =>
      unfold nonempty
      cases second <;> simp

theorem filled_eq_none :
    (if sendable first then some first else nonempty second) = none → second = [] := by
  cases able : sendable first with
  | true => simp
  | false =>
      unfold nonempty
      cases second <;> simp

end Sources

section Sessions

variable {operation : Operation} {session later : SessionSnapshot} {context : BusyContext}
  {shown : String}

theorem comesFrom_session_iff (filled : FilledFrom shown session later context) :
    ComesFrom context session ↔ session.operation = shown ∧ AddsNothing session later := by
  obtain ⟨operation, path, requestId, startedAt, dataspec, key⟩ := filled
  constructor
  · intro comes
    constructor
    · exact (utf8_inj _ _).mp (Option.some.inj (comes.operation.symm.trans operation))
    constructor
    · have path := filled_from_first.mp (path ▸ comes.path)
      simpa only [utf8_eq_nil, utf8_inj] using path
    · exact filled_from_first.mp (requestId ▸ comes.requestId)
    · have startedAt := startedAt ▸ comes.startedAt
      grind
    · have dataspec := nonempty_from.mp (dataspec ▸ comes.dataspec)
      simpa only [utf8_eq_nil, utf8_inj] using dataspec
    · have key := nonempty_from.mp (key ▸ comes.key)
      simpa only [utf8_eq_nil, utf8_inj] using key
  · intro ⟨named, adds⟩
    constructor
    · rw [operation, named]
    · rw [path, filled_from_first]
      simpa only [utf8_eq_nil, utf8_inj] using adds.path
    · rw [requestId, filled_from_first]
      exact adds.requestId
    · have adds := adds.startedAt
      grind
    · rw [dataspec, nonempty_from]
      simpa only [utf8_eq_nil, utf8_inj] using adds.dataspec
    · rw [key, nonempty_from]
      simpa only [utf8_eq_nil, utf8_inj] using adds.key

theorem comesFrom_later_iff
    (filled : FilledFrom (shownOperation operation session) session later context) :
    ComesFrom context later ↔ HeadersFit operation session later := by
  obtain ⟨named, path, requestId, startedAt, dataspec, key⟩ := filled
  constructor
  · intro comes
    constructor
    · exact (utf8_inj _ _).mp (Option.some.inj (named.symm.trans comes.operation))
    · have path := filled_from_second.mp (path ▸ comes.path)
      simpa only [utf8_inj] using path
    · exact filled_from_second.mp (requestId ▸ comes.requestId)
    · have startedAt := startedAt ▸ comes.startedAt
      grind
  · intro fit
    constructor
    · rw [named, fit.operation]
    · rw [path, filled_from_second, utf8_inj]
      exact fit.path
    · rw [requestId, filled_from_second]
      exact fit.requestId
    · have fit := fit.startedAt
      grind
    · rw [dataspec, nonempty_from]
      exact .inr rfl
    · rw [key, nonempty_from]
      exact .inr rfl

theorem NoSession.addsNothing (filled : FilledFrom shown session later context)
    (none : NoSession context operation) : AddsNothing session later := by
  obtain ⟨_, path, requestId, startedAt, dataspec, key⟩ := filled
  constructor
  · exact .inr (.inl (utf8_eq_nil.mp (filled_eq_none (path ▸ none.path))))
  · exact .inr (.inl (filled_eq_none (requestId ▸ none.requestId)))
  · have startedAt := startedAt ▸ none.startedAt
    grind
  · have dataspec := dataspec ▸ none.dataspec
    grind [nonempty, List.isEmpty_iff, utf8_eq_nil]
  · have key := key ▸ none.key
    grind [nonempty, List.isEmpty_iff, utf8_eq_nil]

/-- Without a session the second snapshot adds nothing exactly by being empty as well. -/
theorem AddsNothing.noSession (published : Published session) (unnamed : session.operation = "")
    (adds : AddsNothing session later)
    (filled : FilledFrom (shownOperation operation session) session later context) :
    NoSession context operation := by
  obtain ⟨pathEmpty, idEmpty, notStarted, dataspecEmpty, keyEmpty⟩ := published.empty unnamed
  obtain ⟨named, path, requestId, startedAt, dataspec, key⟩ := filled
  obtain ⟨addsPath, addsId, addsStart, addsDataspec, addsKey⟩ := adds
  have unsendable : sendable [] = false := rfl
  have noPath : later.path = "" := by simpa [pathEmpty, utf8_eq_nil.mpr, unsendable] using addsPath
  have noId : later.requestId = [] := by simpa [idEmpty, unsendable] using addsId
  have noStart : ¬ 0 < later.startedAt := by omega
  have noDataspec : later.dataspec = "" := by simpa [dataspecEmpty] using addsDataspec
  have noKey : later.key = "" := by simpa [keyEmpty] using addsKey
  constructor
  · simpa [shownOperation, unnamed] using named
  · simp [path, pathEmpty, noPath, utf8_eq_nil.mpr, unsendable, nonempty]
  · simp [requestId, idEmpty, noId, unsendable, nonempty]
  · simp [startedAt, notStarted, noStart]
  · simp [dataspec, noDataspec, utf8_eq_nil.mpr, nonempty]
  · simp [key, noKey, utf8_eq_nil.mpr, nonempty]

/-- The error describes one session exactly when its answer does. -/
theorem oneSession_iff (published : Published session)
    (filled : FilledFrom (shownOperation operation session) session later context) :
    OneSession operation session later context ↔
      AddsNothing session later ∨ HeadersFit operation session later := by
  unfold OneSession
  rw [comesFrom_session_iff filled, comesFrom_later_iff filled]
  constructor
  · intro one
    obtain ⟨-, adds⟩ | fit | none := one
    · exact .inl adds
    · exact .inr fit
    · exact .inl (none.addsNothing filled)
  · intro condition
    obtain adds | fit := condition
    · by_cases unnamed : session.operation = ""
      · exact .inr (.inr (adds.noSession published unnamed filled))
      · exact .inl ⟨by simp [shownOperation, unnamed], adds⟩
    · exact .inr (.inl fit)

end Sessions

/-! ## Over every run -/

/-- The clock counts seconds in 64 bits. -/
def ClockFits : SessionAction → Prop
  | .publish _ now _ => now < 2 ^ 63
  | _ => True

/-- Only published sessions are ever seen. -/
structure SnapshotsPublished (state : SessionState) : Prop where
  active : ∀ now watchActive, Published (getSessionSnapshot state.activeSession now watchActive)
  headers : ∀ request session, (state.requests request).phase = .answering session →
    Published session
  answers : ∀ request session later,
    (state.requests request).phase = .finished (some (session, later)) → Published session

namespace SnapshotsPublished

theorem initial : SnapshotsPublished .initial where
  active := .none
  headers := by simp [SessionState.initial]
  answers := by simp [SessionState.initial]

/-- A request that keeps no snapshot may change as it likes. -/
theorem setRequest {state : SessionState} {request : Nat} {value : Worker.Request}
    (published : SnapshotsPublished state)
    (answering : ∀ session, value.phase = .answering session → Published session)
    (finished : ∀ session later, value.phase = .finished (some (session, later)) →
      Published session) : SnapshotsPublished (state.setRequest request value) where
  active := published.active
  headers := by
    intro other session phase
    simp only [SessionState.setRequest] at phase
    split at phase
    · exact answering session phase
    · exact published.headers other session phase
  answers := by
    intro other session later phase
    simp only [SessionState.setRequest] at phase
    split at phase
    · exact finished session later phase
    · exact published.answers other session later phase

theorem step {state next : SessionState} {action : SessionAction}
    (published : SnapshotsPublished state) (fits : ClockFits action)
    (taken : sessionStep state action = some next) : SnapshotsPublished next := by
  cases sessionStep_cases taken with
  | resetArrives phase | resetLook phase | resetIncrement phase | resetPoll phase
  | resetAnswer phase =>
      exact ⟨published.active, published.headers, published.answers⟩
  | requestArrives phase | lockBusy phase _ =>
      exact published.setRequest (by simp) (by simp)
  | @lockTaken request phase free =>
      have moved : SnapshotsPublished (state.setRequest request
          { state.requests request with
            phase := .locked
            returnedBefore := fun reset => (state.resets reset).phase.hasReturned }) :=
        published.setRequest (by simp) (by simp)
      exact ⟨moved.active, moved.headers, moved.answers⟩
  | @publish request now watchActive phase =>
      have moved : SnapshotsPublished (state.setPhase request .published) :=
        published.setRequest (by simp) (by simp)
      exact ⟨fun now' watchActive' => .session _ now watchActive now' watchActive' fits,
        moved.headers, moved.answers⟩
  | sample phase streams =>
      exact published.setRequest (by simp) (by simp)
  | @clear request leased =>
      have moved : SnapshotsPublished (state.setPhase request .cleared) :=
        published.setRequest (by simp) (by simp)
      refine ⟨?_, moved.headers, moved.answers⟩
      unfold SessionState.clear clearActiveSession
      dsimp only
      split
      · exact .none
      · exact published.active
  | @unlock request phase =>
      have moved : SnapshotsPublished (state.setPhase request (.finished none)) :=
        published.setRequest (by simp) (by simp)
      exact ⟨moved.active, moved.headers, moved.answers⟩
  | @busyHeaders request now watchActive phase =>
      have shown := published.active now watchActive
      exact published.setRequest (by simpa [SessionState.snapshot] using shown) (by simp)
  | @busyBody request now watchActive headers phase =>
      have shown := published.headers request headers phase
      exact published.setRequest (by simp) (by simpa using shown)

theorem run {actions : List SessionAction} {state : SessionState}
    (fits : ∀ action ∈ actions, ClockFits action)
    (ran : Transition.run sessionStep .initial actions = some state) : SnapshotsPublished state :=
  run_preserves_along SnapshotsPublished
    (fun _ _ _ published fits taken => published.step fits taken) .initial
    (Along.of_forall fun _ action inside => fits action inside) ran

end SnapshotsPublished

/-- In every run, and for every answer to a refused request: the `JVBusyError` that the client
builds describes one session exactly when the second snapshot added nothing to the first, or
is of a session that the header fields fit. -/
theorem busy_error_one_session_iff {library : PythonLibrary} {actions : List SessionAction}
    {state : SessionState} (ran : run sessionStep .initial actions = some state)
    (fits : ∀ action ∈ actions, ClockFits action) {request : Nat}
    {session later : SessionSnapshot}
    (answered : (state.requests request).phase = .finished (some (session, later)))
    {server : WorkerServer} {connection : Connection} {clock : Clock}
    {received : Http.Request}
    {answer : Http.Response}
    (sent : answer = server.busyAnswer connection clock received
      (state.requests request).incoming.operation session later)
    {receives : Http.Response → HttpResponse} (receiving : ReadsAnswer receives answer)
    (reads : ReadsBody library answer) {error : JVLinkError}
    (raised : refusalException library (state.requests request).incoming.operation
      (receives answer) = .jvLink error) (busy : error.cls = .busyError) :
    OneSession (state.requests request).incoming.operation session later error.busyContext ↔
      AddsNothing session later ∨
        HeadersFit (state.requests request).incoming.operation session later := by
  subst sent
  rw [receiving] at raised
  have published := (SnapshotsPublished.run fits ran).answers request session later answered
  cases valid : validUtf8 later.requestId with
  | false => exact absurd busy (refusal_failed library server connection clock received _ session
      later valid reads raised)
  | true =>
      obtain ⟨own, same, -, context⟩ := refusal_shown library server connection clock received
        (state.requests request).incoming.operation session later valid reads
      obtain rfl : own = error := by simpa [same] using raised
      have fields := busyAnswer_fields server connection clock received
        (state.requests request).incoming.operation published valid
      obtain ⟨shown, named, -⟩ :=
        published.shownOperation (state.requests request).incoming.operation
      rw [context]
      exact oneSession_iff published
        (extractBusyContext_filled fields (named ▸ operation_sendable shown) published.fits)

/-! ## A session that ends between the snapshots -/

def realtimeQuery : IncomingRequest where
  operation := .queryRealtime
  path := "/query/realtime"
  dataspec := "0B12"
  key := "20240106"
  requestId := utf8 "first"
  remoteAddr := "127.0.0.1"

def storedQuery : IncomingRequest where
  operation := .queryStored
  path := "/query/stored"
  dataspec := "RACE"
  requestId := utf8 "second"
  remoteAddr := "127.0.0.1"

def refusedStart : IncomingRequest where
  operation := .eventStart
  path := "/event/start"
  requestId := utf8 "third"
  remoteAddr := "127.0.0.1"

/-- While the start is being refused, the realtime query ends and a stored query begins. -/
def handover : List SessionAction :=
  [.requestArrives 0 realtimeQuery, .tryLock 0, .publish 0 100 false,
    .requestArrives 1 refusedStart, .tryLock 1, .busyHeaders 1 101 false,
    .clear 0, .unlock 0,
    .requestArrives 2 storedQuery, .tryLock 2, .publish 2 102 false,
    .busyBody 1 103 false]

def handoverSession : SessionSnapshot :=
  getSessionSnapshot (makeSessionSnapshot realtimeQuery 100 false) 101 false

def handoverLater : SessionSnapshot :=
  getSessionSnapshot (makeSessionSnapshot storedQuery 102 false) 103 false

theorem handover_answered :
    ∃ state, run sessionStep .initial handover = some state ∧
      (state.requests 1).incoming = refusedStart ∧
      (state.requests 1).phase = .finished (some (handoverSession, handoverLater)) :=
  ⟨_, rfl, rfl, rfl⟩

def handoverServer : WorkerServer where
  port := 8765
  wrapper := some { status := "healthy", operational := true }

def handoverAnswer : Http.Response :=
  handoverServer.busyAnswer {} {} { method := "POST", path := "/event/start" } .eventStart
    handoverSession handoverLater

theorem handover_published : Published handoverSession := .session _ _ _ _ _ (by decide)

theorem handover_error :
    ∃ error, refusalException plainLibrary .eventStart (receivedAnswer handoverAnswer) = .jvLink error ∧
      error.cls = .busyError ∧
      FilledFrom "query_realtime" handoverSession handoverLater error.busyContext := by
  have valid : validUtf8 handoverLater.requestId = true := validUtf8_utf8 "second"
  obtain ⟨error, raised, busy, context⟩ := refusal_shown plainLibrary handoverServer {} {}
    { method := "POST", path := "/event/start" } .eventStart handoverSession handoverLater valid
    (readsBody_plain _)
  refine ⟨error, raised, busy, ?_⟩
  rw [context]
  exact extractBusyContext_filled (busyAnswer_fields _ _ _ _ _ handover_published valid)
    (operation_sendable .queryRealtime) handover_published.fits

/-- The error names the realtime query, with the data specification of the stored one. -/
theorem busy_error_mixes_sessions :
    ∃ state, run sessionStep .initial handover = some state ∧
      (state.requests 1).phase = .finished (some (handoverSession, handoverLater)) ∧
    ∃ error, refusalException plainLibrary .eventStart (receivedAnswer handoverAnswer) = .jvLink error ∧
      error.cls = .busyError ∧
      error.busyContext.operation = some (utf8 "query_realtime") ∧
      error.busyContext.dataspec = some (utf8 "RACE") ∧
      ¬ OneSession .eventStart handoverSession handoverLater error.busyContext := by
  obtain ⟨state, ran, -, answered⟩ := handover_answered
  obtain ⟨error, raised, busy, filled⟩ := handover_error
  refine ⟨state, ran, answered, error, raised, busy, filled.operation, filled.dataspec, ?_⟩
  rw [oneSession_iff handover_published filled]
  intro condition
  obtain adds | fit := condition
  · exact absurd adds.dataspec (by decide)
  · exact absurd fit.operation (by decide)

theorem busy_error_handover :
    ∃ error : JVLinkError,
      OneSession .eventStart handoverSession handoverLater error.busyContext ↔
        AddsNothing handoverSession handoverLater ∨
          HeadersFit .eventStart handoverSession handoverLater := by
  obtain ⟨error, raised, busy, -⟩ := handover_error
  obtain ⟨state, ran, own, answered⟩ := handover_answered
  have operation : (state.requests 1).incoming.operation = .eventStart := by rw [own]; rfl
  have sent : handoverAnswer = handoverServer.busyAnswer {} {}
      { method := "POST", path := "/event/start" } (state.requests 1).incoming.operation
      handoverSession handoverLater := by rw [operation]; rfl
  have decided := busy_error_one_session_iff ran (by simp [handover, ClockFits]) answered sent
    (rfl : ReadsAnswer receivedAnswer _) (readsBody_plain _) (by rw [operation]; exact raised) busy
  rw [operation] at decided
  exact ⟨error, decided⟩

end JVLinkServer.Client
