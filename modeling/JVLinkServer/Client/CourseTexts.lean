import JVLinkServer.Client.BusySessions
import JVLinkServer.Supervisor.StandardProxy
import JVLinkServer.Worker.CourseImage

namespace JVLinkServer.Client

open Http Worker Supervisor

/-! # Course explanations

The explanation of a course comes in a header field, behind two servers and two clients.
-/

/-! ## The client -/

/-- The clauses of `_request_binary`. -/
def binaryException (endpoint : Bytes) (exception : HttpxException) : PythonException :=
  let converted (cls : ErrorClass) (message : Bytes) : PythonException :=
    .jvLink { cls, message, cause := some (.httpx exception) }
  if exception.isTimeout then converted .timeoutError (utf8 "HTTP request timeout: " ++ endpoint)
  else if exception.kind = .connectError then
    converted .connectionError (utf8 "HTTP connection failed: " ++ exception.message)
  else if exception.isNetworkError then
    converted .connectionError (utf8 "HTTP network error: " ++ exception.message)
  else .httpx exception

/-- `_request_binary`, with the content of the response. -/
def requestBinary (library : PythonLibrary) (endpoint : Bytes) :
    Client.Exchange → Except PythonException (HttpResponse × Bytes)
  | .fails exception => .error (binaryException endpoint exception)
  | .responds response =>
      match response.content with
      | .error exception => .error (binaryException endpoint exception)
      | .ok content =>
          if response.isSuccess then .ok (response, content)
          else .error (serverErrorException library response)

/-- `HttpTransport.get_course` on what its request comes to.  A text stands for its
encoding. -/
def getCourse (library : PythonLibrary) (b64decode : Bytes → Option Bytes)
    (exchange : Client.Exchange) : Except PythonException (Bytes × Bytes) := do
  let (response, content) ← requestBinary library (utf8 "/course/image") exchange
  let explanation := (response.header "X-Course-Explanation").getD []
  match response.header "X-Course-Explanation-Base64" with
  | none => return (content, explanation)
  | some encoded =>
      if encoded.isEmpty then return (content, explanation)
      else return (content, ((b64decode encoded).filter validUtf8).getD explanation)

def courseRequest (headers : Headers) (key : String) : Http.Request where
  method := "POST"
  path := "/course/image"
  headers
  body := (Json.record [("key", .text key)]).render

/-- Twelve fields are fewer than 100 KB, the most that `httpx` takes. -/
def ReadsWellFormed (receives : Http.Response → Client.Exchange) : Prop :=
  ∀ response : Http.Response, response.headers.length ≤ 12 →
    (∀ header ∈ response.headers, isReadable header = true) →
    receives response = .responds (receivedAnswer response)

/-! ## What the worker sends -/

/-- The fields that the servers write before those of a handler. -/
def corsFields : Headers :=
  [(utf8 "Access-Control-Allow-Origin", utf8 "*"),
   (utf8 "Access-Control-Allow-Methods", utf8 "GET, POST, OPTIONS"),
   (utf8 "Access-Control-Allow-Headers", utf8 "Content-Type")]

theorem corsHeaders_eq : (corsHeaders {}).headers = corsFields := by decide

/-- `X-Course-Explanation`, if it can be sent. -/
def rawFields (explanation : Bytes) : Headers :=
  if isFieldValue explanation then [(utf8 "X-Course-Explanation", explanation)] else []

theorem rawFields_named (explanation : Bytes) :
    ∀ header ∈ rawFields explanation, header.1 = utf8 "X-Course-Explanation" := by
  unfold rawFields
  split <;> simp

def base64Field (explanation : Bytes) : Header :=
  (utf8 "X-Course-Explanation-Base64", base64Encode explanation)

/-- The fields of an answer with an image, without those of the framing. -/
def courseFields (requestId explanation : Bytes) (raw : Headers) : Headers :=
  corsFields ++ [(utf8 "X-Request-Id", requestId)] ++ raw ++
    [base64Field explanation, (utf8 "Content-Type", utf8 "image/gif")]

theorem isFieldValue_base64 (bytes : Bytes) : isFieldValue (base64Encode bytes) = true :=
  isFieldValue_of_visible fun byte inside =>
    (isFieldVchar_of_base64 (isBase64_base64Encode bytes byte inside)).1

theorem isFieldValue_generatedId (clock : Clock) (counter : UInt64) :
    isFieldValue (generatedId clock counter) = true :=
  isFieldValue_of_visible fun byte inside => (visible_generatedId counter byte inside).1

theorem erase_absent {headers : Headers} {name : String} (absent : headers.has name = false) :
    headers.erase name = headers := by
  rw [Headers.erase, List.filter_eq_self]
  intro header inside
  simpa using List.any_eq_false.mp absent header inside

theorem courseAnswer_headers {requestId : Bytes} (sendable : isFieldValue requestId = true)
    (explanation image : Bytes) :
    (courseAnswer requestId explanation image (corsHeaders {})).headers =
      courseFields requestId explanation (rawFields explanation) := by
  have id : isField (utf8 "X-Request-Id", requestId) = true := by
    simp only [isField, sendable, Bool.and_true]
    decide
  have base64 : isField (utf8 "X-Course-Explanation-Base64", base64Encode explanation) = true := by
    simp only [isField, isFieldValue_base64, Bool.and_true]
    decide
  have raw (headers : Headers) : headers.set (utf8 "X-Course-Explanation") explanation =
      headers ++ rawFields explanation := by
    have named : isFieldName (utf8 "X-Course-Explanation") = true := by decide
    unfold Headers.set rawFields Headers.emplace
    simp only [named, Bool.true_and]
    split <;> simp
  have type : isField (utf8 "Content-Type", utf8 "image/gif") = true := by decide
  change (((((corsHeaders {}).headers.set (utf8 "X-Request-Id") requestId).set
    (utf8 "X-Course-Explanation") explanation).set (utf8 "X-Course-Explanation-Base64")
    (base64Encode explanation)).erase "Content-Type").set (utf8 "Content-Type")
    (utf8 "image/gif") = _
  rw [set_field type, corsHeaders_eq, set_field id, raw, set_field base64, erase_absent]
  · simp only [courseFields, base64Field, List.append_assoc, List.cons_append, List.nil_append]
  · unfold rawFields
    split <;> rfl

/-- The answer of the supervisor to a request for a course image, from a worker that
serves it. -/
def relayCourse (clock : Clock) (server : WorkerServer) (connection : Connection)
    (request : Http.Request) (courseFile : Bytes → CourseReply) : Relayed :=
  serveStandard connection request true fun upstream =>
    receive (server.serve { closes := true } upstream
      (handleCourseImage clock upstream true courseFile))

section Worker

variable {clock : Clock} {request : Http.Request} {courseFile : Bytes → CourseReply}
  {explanation image : Bytes}

/-- A length of 64 bits can be announced. -/
theorem isReadable_length {length : Nat} (bounded : length < 2 ^ 64) :
    isReadable (utf8 "Content-Length", decimal length) = true := by
  have valid : isField (utf8 "Content-Length", decimal length) = true := by
    simp only [isField, isFieldValue_decimal, Bool.and_true]
    decide
  have short := length_decimal_le (by simpa using bounded : (length : Int).natAbs < 2 ^ 64)
  have name : (utf8 "Content-Length").length = 14 := by decide
  have line : (writeHeader (utf8 "Content-Length", decimal length)).length + 2 ≤
      headerMaxLength := by
    rw [length_writeHeader, name, headerMaxLength]
    omega
  simp only [isReadable, valid, line, decide_true, Bool.and_self]

theorem courseFields_typed (requestId explanation : Bytes) {raw : Headers}
    (only : ∀ header ∈ raw, header.1 = utf8 "X-Course-Explanation") :
    (courseFields requestId explanation raw).has "Content-Type" = true ∧
      (courseFields requestId explanation raw).has "Content-Length" = false := by
  have other : raw.has "Content-Length" = false := by
    refine List.any_eq_false.mpr fun header inside => ?_
    rw [only header inside]
    decide
  simp only [courseFields, has_append, other]
  exact ⟨Bool.or_true _, rfl⟩

/-- The answer of the worker, with the fields of its framing. -/
theorem serve_course {server : WorkerServer} {health : Core.JVLinkHealthSnapshot}
    (wrapper : server.wrapper = some health) (operational : health.operational = true)
    (unnamed : request.headers.values "X-Request-Id" = []) (plain : request.ranges = [])
    {key : String} (given : key ≠ "")
    (body : Json.parse request.body = some (.record [("key", .text key)]))
    (bounded : image.length < 2 ^ 64)
    (found : courseFile (utf8 key) = { code := 0, image := some image, explanation }) :
    ∃ counter, server.serve { closes := true } request
        (handleCourseImage clock request true courseFile) =
      { status := 200
        headers := courseFields (generatedId clock counter) explanation (rawFields explanation) ++
          Connection.framing { closes := true } image
        body := image } := by
  obtain ⟨counter, after, answered⟩ := handleCourseImage_answers clock wrapper
    operational unnamed given body found (corsHeaders {})
  have headers := courseAnswer_headers (isFieldValue_generatedId clock counter) explanation image
  have written : courseAnswer (generatedId clock counter) explanation image (corsHeaders {}) =
      { status := 200
        headers := courseFields (generatedId clock counter) explanation (rawFields explanation)
        body := image } := by
    rw [← headers]
    rfl
  have length := isReadable_length bounded
  simp only [isReadable, Bool.and_eq_true] at length
  have typed := courseFields_typed (generatedId clock counter) explanation
    (rawFields_named explanation)
  refine ⟨counter, ?_⟩
  rw [serve_of_ok answered, written]
  rw [respond_framed Worker.httpServer (by decide) plain rfl typed.1 typed.2 rfl length.1]

/-! ## What the supervisor reads -/

theorem courseFields_all (requestId : Bytes) (raw : Headers) (check : Header → Bool) :
    (courseFields requestId explanation raw).all check =
      (corsFields.all check && check (utf8 "X-Request-Id", requestId) && raw.all check &&
        check (base64Field explanation) && check (utf8 "Content-Type", utf8 "image/gif")) := by
  simp [courseFields, Bool.and_assoc]

theorem isReadable_generatedId (bounded : clock.milliseconds.natAbs < 2 ^ 64) (counter : UInt64) :
    isReadable (utf8 "X-Request-Id", generatedId clock counter) = true := by
  have valid : isField (utf8 "X-Request-Id", generatedId clock counter) = true := by
    simp only [isField, isFieldValue_generatedId, Bool.and_true]
    decide
  have time := length_decimal_le bounded
  have count := length_decimal_le
    (by simpa using counter.toNat_lt : (counter.toNat : Int).natAbs < 2 ^ 64)
  have name : (utf8 "X-Request-Id").length = 12 := by decide
  have start : (utf8 "req-").length = 4 := by decide
  have dash : (utf8 "-").length = 1 := by decide
  have line : (writeHeader (utf8 "X-Request-Id", generatedId clock counter)).length + 2 ≤
      headerMaxLength := by
    simp only [length_writeHeader, generatedId, List.length_append, name, start, dash,
      headerMaxLength]
    omega
  simp only [isReadable, valid, line, decide_true, Bool.and_self]

theorem isField_base64Field (explanation : Bytes) : isField (base64Field explanation) = true := by
  simp only [isField, base64Field, isFieldValue_base64, Bool.and_true]
  decide

/-- A line of 8192 bytes has room for the Base64 of 6120. -/
theorem base64Field_fits :
    (writeHeader (base64Field explanation)).length + 2 ≤ headerMaxLength ↔
      explanation.length ≤ 6120 := by
  have name : (utf8 "X-Course-Explanation-Base64").length = 27 := by decide
  rw [base64Field, length_writeHeader, name, length_base64Encode, headerMaxLength]
  omega

/-- `X-Course-Explanation`, as the supervisor reads it. -/
def arrivedFields (explanation : Bytes) : Headers :=
  (rawFields explanation).map fun header => (header.1, decodeUrl header.2)

theorem arrivedFields_eq (explanation : Bytes) :
    arrivedFields explanation =
      if isFieldValue explanation then
        [(utf8 "X-Course-Explanation", decodeUrl explanation)]
      else [] := by
  unfold arrivedFields rawFields
  split <;> rfl

theorem map_readValue {headers : Headers} (plain : ∀ header ∈ headers, 37 ∉ header.2) :
    (headers.map fun header => (header.1, readValue header)) = headers := by
  conv => rhs; rw [← List.map_id headers]
  refine List.map_congr_left fun header inside => ?_
  rw [readValue_plain (plain header inside), id]

theorem framing_plain (image : Bytes) :
    ∀ header ∈ Connection.framing { closes := true } image, 37 ∉ header.2 := by
  intro header inside
  obtain rfl | rfl := Connection.mem_framing inside
  · decide
  · exact fun escape => (visible_decimal (image.length : Int) _ escape).2 rfl

/-- The raw text is the only value that the supervisor decodes to another. -/
theorem courseFields_read (counter : UInt64) (image : Bytes) :
    (courseFields (generatedId clock counter) explanation (rawFields explanation) ++
        Connection.framing { closes := true } image).map
          (fun header => (header.1, readValue header)) =
      courseFields (generatedId clock counter) explanation (arrivedFields explanation) ++
        Connection.framing { closes := true } image := by
  have cors : ∀ header ∈ corsFields, 37 ∉ header.2 := by decide
  have named : ∀ header ∈ [(utf8 "X-Request-Id", generatedId clock counter)], 37 ∉ header.2 := by
    intro header inside escape
    rw [List.mem_singleton.mp inside] at escape
    exact (visible_generatedId counter _ escape).2 rfl
  have last : ∀ header ∈ [base64Field explanation, (utf8 "Content-Type", utf8 "image/gif")],
      37 ∉ header.2 := by
    intro header inside escape
    obtain rfl | inside := List.mem_cons.mp inside
    · exact (isFieldVchar_of_base64 (isBase64_base64Encode explanation _ escape)).2 rfl
    · rw [List.mem_singleton.mp inside] at escape
      revert escape
      decide
  have raw : ((rawFields explanation).map fun header => (header.1, readValue header)) =
      arrivedFields explanation := by
    unfold arrivedFields rawFields
    split <;> rfl
  simp only [courseFields, List.map_append, map_readValue cors, map_readValue named,
    map_readValue last, raw, map_readValue (framing_plain image)]

theorem rawFields_valid (explanation : Bytes) : (rawFields explanation).all isField = true := by
  unfold rawFields
  split
  · next valid =>
      simp only [List.all_cons, List.all_nil, isField, valid, Bool.and_true]
      decide
  · rfl

theorem framing_readable {connection : Connection} (connected : isReadable connection.field = true)
    (bounded : image.length < 2 ^ 64) : (connection.framing image).all isReadable = true := by
  refine List.all_eq_true.mpr fun header inside => ?_
  obtain rfl | rfl := Connection.mem_framing inside
  · exact connected
  · exact isReadable_length bounded

theorem isField_of_readable {headers : Headers} (readable : headers.all isReadable = true) :
    headers.all isField = true := by
  simp only [List.all_eq_true, isReadable, Bool.and_eq_true] at readable ⊢
  exact fun header inside => (readable header inside).1

theorem courseFields_valid (counter : UInt64) {raw : Headers} (valid : raw.all isField = true) :
    (courseFields (generatedId clock counter) explanation raw).all isField = true := by
  have cors : corsFields.all isField = true := by decide
  have type : isField (utf8 "Content-Type", utf8 "image/gif") = true := by decide
  have named : isField (utf8 "X-Request-Id", generatedId clock counter) = true := by
    simp only [isField, isFieldValue_generatedId, Bool.and_true]
    decide
  simp only [courseFields_all, cors, type, named, valid, isField_base64Field, Bool.and_self]

/-- The length of the Base64 is what can be in the way. -/
theorem courseFields_readable (time : clock.milliseconds.natAbs < 2 ^ 64) (counter : UInt64)
    {raw : Headers} (short : explanation.length ≤ 6120 → raw.all isReadable = true) :
    (courseFields (generatedId clock counter) explanation raw).all isReadable =
      decide (explanation.length ≤ 6120) := by
  have cors : corsFields.all isReadable = true := by decide
  have type : isReadable (utf8 "Content-Type", utf8 "image/gif") = true := by decide
  have base64 : isReadable (base64Field explanation) = decide (explanation.length ≤ 6120) := by
    rw [isReadable, isField_base64Field, Bool.true_and]
    exact decide_eq_decide.mpr base64Field_fits
  simp only [courseFields_all, cors, type, isReadable_generatedId time, base64, Bool.true_and,
    Bool.and_true]
  by_cases fits : explanation.length ≤ 6120
  · simp only [fits, short fits, decide_true, Bool.and_self]
  · simp only [fits, decide_false, Bool.and_false]

theorem arrivedFields_named (explanation : Bytes) :
    ∀ header ∈ arrivedFields explanation, header.1 = utf8 "X-Course-Explanation" := by
  rw [arrivedFields_eq]
  split <;> simp

/-- No field names an encoding. -/
theorem courseFields_plain (requestId : Bytes) :
    isEncoded (courseFields requestId explanation (arrivedFields explanation) ++
      Connection.framing { closes := true } image) = false := by
  have raw : (arrivedFields explanation).all
      (fun header => !sameName header.1 (utf8 "Content-Encoding")) = true := by
    refine List.all_eq_true.mpr fun header inside => ?_
    rw [arrivedFields_named explanation header inside]
    decide
  have framing : (Connection.framing { closes := true } image).all
      (fun header => !sameName header.1 (utf8 "Content-Encoding")) = true := by
    refine List.all_eq_true.mpr fun header inside => ?_
    obtain rfl | rfl := Connection.mem_framing inside
    · decide
    · change (!sameName (utf8 "Content-Length") (utf8 "Content-Encoding")) = true
      decide
  refine isEncoded_of_absent ?_
  rw [List.all_append, courseFields_all, raw, framing]
  rfl

/-- A text on its line is shorter than its Base64. -/
theorem textField_readable {text : Bytes} (valid : isFieldValue text = true)
    (short : text.length ≤ 6120) :
    isReadable (utf8 "X-Course-Explanation", text) = true := by
  have field : isField (utf8 "X-Course-Explanation", text) = true := by
    simp only [isField, valid, Bool.and_true]
    decide
  have name : (utf8 "X-Course-Explanation").length = 20 := by decide
  have line : (writeHeader (utf8 "X-Course-Explanation", text)).length + 2 ≤ headerMaxLength := by
    rw [length_writeHeader, name, headerMaxLength]
    omega
  simp only [isReadable, field, line, decide_true, Bool.and_self]

/-- The supervisor's client reads the answer if the Base64 fits its line. -/
theorem receive_course (time : clock.milliseconds.natAbs < 2 ^ 64) (bounded : image.length < 2 ^ 64)
    (counter : UInt64) :
    receive
        { status := 200
          headers := courseFields (generatedId clock counter) explanation (rawFields explanation) ++
            Connection.framing { closes := true } image
          body := image } =
      if explanation.length ≤ 6120 then
        some
          { status := 200
            headers :=
              courseFields (generatedId clock counter) explanation (arrivedFields explanation) ++
                Connection.framing { closes := true } image
            body := image }
      else none := by
  have closed : isReadable (Connection.field { closes := true }) = true := by decide
  have framing := framing_readable closed bounded
  have raw (short : explanation.length ≤ 6120) :
      (rawFields explanation).all isReadable = true := by
    unfold rawFields
    split
    · next valid => simp only [List.all_cons, List.all_nil, textField_readable valid short,
        Bool.and_self]
    · rfl
  have valid : (courseFields (generatedId clock counter) explanation (rawFields explanation) ++
      Connection.framing { closes := true } image).all isField = true := by
    rw [List.all_append, courseFields_valid counter (rawFields_valid explanation),
      isField_of_readable framing, Bool.and_self]
  rw [receive_success rfl, readHeaders_eq valid, List.all_append,
    courseFields_readable time counter raw, framing, Bool.and_true]
  by_cases fits : explanation.length ≤ 6120
  · rw [if_pos fits, if_pos (decide_eq_true fits), Option.bind_some, courseFields_read,
      if_neg (by rw [courseFields_plain]; decide), content_of_whole rfl]
  · rw [if_neg fits, if_neg (by simpa using fits)]
    rfl

end Worker

/-! ## What the supervisor sends -/

/-- Of the worker's fields only those of the framing are left out. -/
theorem courseFields_copied (requestId explanation image : Bytes) :
    (courseFields requestId explanation (arrivedFields explanation) ++
        Connection.framing { closes := true } image).filter
          (fun header => !shouldSkipResponseHeader header.1) =
      courseFields requestId explanation (arrivedFields explanation) := by
  have framing : (Connection.framing { closes := true } image).filter
      (fun header => !shouldSkipResponseHeader header.1) = [] := by
    refine List.filter_eq_nil_iff.mpr fun header inside => ?_
    obtain rfl | rfl := Connection.mem_framing inside
    · decide
    · change ¬ (!shouldSkipResponseHeader (utf8 "Content-Length")) = true
      decide
  have raw : (arrivedFields explanation).all (fun header => !shouldSkipResponseHeader header.1) =
      true := by
    refine List.all_eq_true.mpr fun header inside => ?_
    rw [arrivedFields_named explanation header inside]
    decide
  have kept : (courseFields requestId explanation (arrivedFields explanation)).all
      (fun header => !shouldSkipResponseHeader header.1) = true := by
    rw [courseFields_all, raw]
    rfl
  rw [List.filter_append, framing, List.append_nil]
  exact List.filter_eq_self.mpr (List.all_eq_true.mp kept)

/-- The answer of the supervisor, without the fields of its framing. -/
def passedOn (requestId explanation image : Bytes) : Http.Response where
  status := 200
  headers := corsFields ++ courseFields requestId explanation (arrivedFields explanation)
  body := image

def relayedAnswer (connection : Connection) (requestId explanation image : Bytes) :
    Http.Response :=
  { passedOn requestId explanation image with
    headers := (passedOn requestId explanation image).headers ++ connection.framing image }

section Relay

variable {clock : Clock} {server : WorkerServer} {connection : Connection} {headers : Headers}
  {key : String} {courseFile : Bytes → CourseReply} {image : Bytes} {text : String}

/-- A course is found, and nothing keeps the worker from answering. -/
structure FindsCourse (clock : Clock) (server : WorkerServer) (connection : Connection)
    (headers : Headers) (key : String) (courseFile : Bytes → CourseReply) (image : Bytes)
    (text : String) : Prop where
  operational : ∃ health, server.wrapper = some health ∧ health.operational = true
  unnamed : headers.values "X-Request-Id" = []
  given : key ≠ ""
  found : courseFile (utf8 key) = { code := 0, image := some image, explanation := utf8 text }
  time : clock.milliseconds.natAbs < 2 ^ 64
  length : image.length < 2 ^ 64
  connected : isReadable connection.field = true

variable (finds : FindsCourse clock server connection headers key courseFile image text)

include finds

/-- What the client of the worker returns. -/
theorem FindsCourse.upstream :
    ∃ counter, receive (server.serve { closes := true }
        (applyRequestHeaders (courseRequest headers key))
        (handleCourseImage clock (applyRequestHeaders (courseRequest headers key)) true
          courseFile)) =
      if (utf8 text).length ≤ 6120 then
        some
          { status := 200
            headers := courseFields (generatedId clock counter) (utf8 text)
                (arrivedFields (utf8 text)) ++ Connection.framing { closes := true } image
            body := image }
      else none := by
  obtain ⟨health, wrapper, operational⟩ := finds.operational
  have unnamed : (applyRequestHeaders (courseRequest headers key)).headers.values "X-Request-Id" =
      [] := by
    have none : headers.filter (fun header => sameName header.1 (utf8 "X-Request-Id")) = [] :=
      List.map_eq_nil_iff.mp finds.unnamed
    change ((headers.filter fun header => !shouldSkipRequestHeader header.1).filter
      fun header => sameName header.1 (utf8 "X-Request-Id")).map Prod.snd = []
    rw [List.filter_comm, none]
    rfl
  have body : Json.parse (applyRequestHeaders (courseRequest headers key)).body =
      some (.record [("key", .text key)]) := by
    have canonical : (Json.record [("key", .text key)]).Canonical := by
      apply Json.canonical_record
      simp
    have text : (Json.record [("key", .text key)]).isText = true := by
      apply Json.isText_record
      simp
    exact Json.parse_dump canonical (if_pos text)
  obtain ⟨counter, served⟩ := serve_course wrapper operational unnamed rfl finds.given body
    finds.length finds.found
  refine ⟨counter, ?_⟩
  rw [served, receive_course finds.time finds.length counter]

/-- A text whose Base64 is too long ends the worker. -/
theorem FindsCourse.restarts (long : ¬ (utf8 text).length ≤ 6120) :
    (relayCourse clock server connection (courseRequest headers key) courseFile).restarted =
      some "upstream transport failure for /course/image" := by
  obtain ⟨counter, lost⟩ := finds.upstream
  rw [if_neg long] at lost
  simp only [relayCourse, serveStandard, proxyStandardRequest, lost, Bool.not_true,
    Bool.false_eq_true, if_false]
  rfl

/-- Any other is passed on. -/
theorem FindsCourse.relayed (short : (utf8 text).length ≤ 6120) :
    ∃ counter, relayCourse clock server connection (courseRequest headers key) courseFile =
      { response := relayedAnswer connection (generatedId clock counter) (utf8 text) image } := by
  obtain ⟨counter, received⟩ := finds.upstream
  rw [if_pos short] at received
  refine ⟨counter, ?_⟩
  have length := isReadable_length finds.length
  have connected := finds.connected
  simp only [isReadable, Bool.and_eq_true] at length connected
  obtain ⟨typed, unframed⟩ := courseFields_typed (generatedId clock counter) (utf8 text)
    (arrivedFields_named (utf8 text))
  have typed' : (passedOn (generatedId clock counter) (utf8 text) image).headers.has
      "Content-Type" = true := by
    rw [passedOn, has_append, typed, Bool.or_true]
  have unframed' : (passedOn (generatedId clock counter) (utf8 text) image).headers.has
      "Content-Length" = false := by
    rw [passedOn, has_append, unframed]
    rfl
  have sent := respond_framed Supervisor.httpServer connected.1
    (rfl : (courseRequest headers key).ranges = []) rfl typed' unframed' rfl length.1
  have start : Supervisor.httpServer.preRoutingHandler {} = { headers := corsFields } := by decide
  have success : ¬ (200 : Int) = 503 := by decide
  simp only [relayCourse, serveStandard, proxyStandardRequest, received, Bool.not_true,
    Bool.false_eq_true, if_false, start, applyResponseHeaders, courseFields_copied, success,
    false_and]
  exact congrArg (fun response => ({ response } : Relayed)) sent

end Relay

/-! ## What the client reads -/

section Reading

variable {connection : Connection} {requestId text image : Bytes}

theorem framing_values {name : String} (other : isFraming name = false) :
    (connection.framing image).values name = [] := by
  simp only [isFraming, List.any_cons, Bool.or_eq_false_iff] at other
  obtain ⟨_, contentLength, _, _, close, keepAlive, _⟩ := other
  refine List.map_eq_nil_iff.mpr (List.filter_eq_nil_iff.mpr fun header inside => ?_)
  obtain rfl | rfl := Connection.mem_framing inside
  · unfold Connection.field
    split
    · simp [close]
    · simp [keepAlive]
  · simp [contentLength]

theorem relayedAnswer_base64 :
    (relayedAnswer connection requestId text image).headers.values
      "X-Course-Explanation-Base64" = [base64Encode text] := by
  have raw : (arrivedFields text).values "X-Course-Explanation-Base64" = [] := by
    rw [arrivedFields_eq]
    split <;> rfl
  have framing : (connection.framing image).values "X-Course-Explanation-Base64" = [] :=
    framing_values (by decide)
  simp only [relayedAnswer, passedOn, courseFields, Headers.values_append, raw, framing]
  rfl

theorem relayedAnswer_raw :
    (relayedAnswer connection requestId text image).headers.values
      "X-Course-Explanation" = (arrivedFields text).values "X-Course-Explanation" := by
  have framing : (connection.framing image).values "X-Course-Explanation" = [] :=
    framing_values (by decide)
  have last : Headers.values [base64Field text, (utf8 "Content-Type", utf8 "image/gif")]
      "X-Course-Explanation" = [] := rfl
  simp only [relayedAnswer, passedOn, courseFields, Headers.values_append, framing, last, List.append_nil]
  rfl

end Reading

/-! ## Texts that survive -/

/-- The image and the text arrive with every client that reads well-formed answers, and the
worker is not restarted. -/
def Survives (library : PythonLibrary) (b64decode : Bytes → Option Bytes) (relayed : Relayed)
    (image text : Bytes) : Prop :=
  ∀ receives, ReadsWellFormed receives →
    getCourse library b64decode (receives relayed.response) = .ok (image, text) ∧
      relayed.restarted = none

/-- The Base64 of the text fits its line, and the text is still a field value with its
percent escapes decoded, if it is one as it is. -/
def CourseFits (text : Bytes) : Prop :=
  text.length ≤ 6120 ∧
    (isFieldValue text = true → isFieldValue (decodeUrl text) = true)

/-- A client that reads nothing else than well-formed answers. -/
def strictClient (response : Http.Response) : Client.Exchange :=
  if response.headers.length ≤ 12 ∧ response.headers.all isReadable = true then
    .responds (receivedAnswer response)
  else .fails { kind := .remoteProtocolError }

theorem strictClient_reads : ReadsWellFormed strictClient := by
  intro response few readable
  exact if_pos ⟨few, List.all_eq_true.mpr readable⟩

theorem strictClient_refuses {response : Http.Response}
    (malformed : response.headers.all isReadable = false) :
    strictClient response = .fails { kind := .remoteProtocolError } := by
  rw [strictClient, malformed]
  exact if_neg fun readable => nomatch readable.2

section Surviving

variable {text : Bytes}

theorem arrivedFields_readable (short : text.length ≤ 6120) :
    (arrivedFields text).all isReadable = true ↔
      (isFieldValue text = true → isFieldValue (decodeUrl text) = true) := by
  have shorter := length_decodeUrl_le text
  rw [arrivedFields_eq]
  split
  · next valid =>
      rw [List.all_cons, List.all_nil, Bool.and_true]
      constructor
      · intro readable _
        simp only [isReadable, isField, Bool.and_eq_true] at readable
        exact readable.1.2
      · intro decoded
        exact textField_readable (decoded valid) (by omega)
  · next invalid => simp [invalid]

theorem relayedAnswer_readable {clock : Clock} {connection : Connection} {image : Bytes}
    (time : clock.milliseconds.natAbs < 2 ^ 64) (bounded : image.length < 2 ^ 64)
    (connected : isReadable connection.field = true) (counter : UInt64)
    (short : text.length ≤ 6120) :
    (relayedAnswer connection (generatedId clock counter) text image).headers.all isReadable =
        true ↔
      (isFieldValue text = true → isFieldValue (decodeUrl text) = true) := by
  have cors : corsFields.all isReadable = true := by decide
  have type : isReadable (utf8 "Content-Type", utf8 "image/gif") = true := by decide
  have base64 : isReadable (base64Field text) = true := by
    rw [isReadable, isField_base64Field, Bool.true_and]
    exact decide_eq_true (base64Field_fits.mpr short)
  rw [← arrivedFields_readable short]
  simp only [relayedAnswer, passedOn, List.all_append, courseFields_all, cors, type, base64,
    isReadable_generatedId time, framing_readable connected bounded, Bool.true_and, Bool.and_true]

theorem relayedAnswer_few {connection : Connection} {requestId image : Bytes} :
    (relayedAnswer connection requestId text image).headers.length ≤ 12 := by
  have raw : (arrivedFields text).length ≤ 1 := by
    rw [arrivedFields_eq]
    split <;> simp
  have framing := connection.length_framing image
  simp only [relayedAnswer, passedOn, courseFields, corsFields, List.length_append, List.length_cons,
    List.length_nil, framing]
  omega

/-- The Base64 counts unless it is empty. -/
theorem getCourse_of_base64 (library : PythonLibrary) (b64decode : Bytes → Option Bytes)
    {response : HttpResponse} {image encoded : Bytes} (content : response.content = .ok image)
    (success : response.isSuccess = true)
    (base64 : response.header "X-Course-Explanation-Base64" = some encoded) :
    getCourse library b64decode (.responds response) =
      .ok (image,
        if encoded.isEmpty then (response.header "X-Course-Explanation").getD []
        else ((b64decode encoded).filter validUtf8).getD
          ((response.header "X-Course-Explanation").getD [])) := by
  have asked : requestBinary library (utf8 "/course/image") (.responds response) =
      .ok (response, image) := by
    rw [requestBinary, content]
    exact if_pos success
  rw [getCourse, asked]
  simp only [bind, Except.bind, base64]
  split <;> rfl

/-- The client finds the image and the text in an answer that it can read. -/
theorem getCourse_relayed (library : PythonLibrary) {b64decode : Bytes → Option Bytes}
    {connection : Connection} {requestId image : Bytes} (valid : validUtf8 text = true)
    (inverse : b64decode (base64Encode text) = some text) :
    getCourse library b64decode
        (.responds (receivedAnswer (relayedAnswer connection requestId text image))) =
      .ok (image, text) := by
  have base64 : headerValue (relayedAnswer connection requestId text image).headers
      "X-Course-Explanation-Base64" = some (base64Encode text) := by
    rw [headerValue, relayedAnswer_base64]
    simp
  have raw : headerValue (relayedAnswer connection requestId text image).headers
      "X-Course-Explanation" = headerValue (arrivedFields text) "X-Course-Explanation" := by
    rw [headerValue, headerValue, relayedAnswer_raw]
  rw [getCourse_of_base64 library b64decode (congrArg Except.ok (content_of_whole rfl)) rfl base64,
    inverse, Option.filter_some, valid]
  congr 2
  cases text with
  | nil => exact congrArg (fun found : Option Bytes => found.getD []) raw
  | cons byte rest =>
      have filled : (base64Encode (byte :: rest)).isEmpty = false := by
        have length := length_base64Encode (byte :: rest)
        cases encoded : base64Encode (byte :: rest) with
        | nil =>
            rw [encoded, List.length_nil, List.length_cons] at length
            omega
        | cons => rfl
      rw [filled]
      rfl

end Surviving

section Trip

variable {clock : Clock} {server : WorkerServer} {connection : Connection} {headers : Headers}
  {key text : String} {courseFile : Bytes → CourseReply} {image : Bytes} {library : PythonLibrary}
  {b64decode : Bytes → Option Bytes}

/-- Exactly the texts that fit survive the trip. -/
theorem course_survives (finds : FindsCourse clock server connection headers key courseFile image text)
    (inverse : b64decode (base64Encode (utf8 text)) = some (utf8 text)) :
    Survives library b64decode
        (relayCourse clock server connection (courseRequest headers key) courseFile) image
        (utf8 text) ↔
      CourseFits (utf8 text) := by
  by_cases short : (utf8 text).length ≤ 6120
  · obtain ⟨counter, relayed⟩ := finds.relayed short
    have readable := relayedAnswer_readable finds.time finds.length finds.connected counter short
    rw [relayed]
    constructor
    · intro survives
      refine ⟨short, readable.mp ?_⟩
      -- A client that refuses malformed answers would lose it otherwise.
      obtain ⟨got, -⟩ := survives strictClient strictClient_reads
      cases bad : (relayedAnswer connection (generatedId clock counter) (utf8 text)
          image).headers.all isReadable with
      | true => rfl
      | false =>
          have lost := strictClient_refuses bad
          rw [lost] at got
          cases got
    · intro fits receives reads
      have read := reads _ relayedAnswer_few (List.all_eq_true.mp (readable.mpr fits.2))
      exact ⟨read ▸ getCourse_relayed library (validUtf8_utf8 text) inverse, rfl⟩
  · constructor
    · intro survives
      obtain ⟨-, kept⟩ := survives strictClient strictClient_reads
      rw [finds.restarts short] at kept
      cases kept
    · intro fits
      exact absurd fits.1 short

end Trip

def courseWorker : WorkerServer where
  port := 8765
  wrapper := some { initialized := true, operational := true, status := "healthy" }

/-- A course map with one explanation. -/
def oneCourse (image : Bytes) (text : String) (_key : Bytes) : CourseReply where
  code := 0
  image := some image
  explanation := utf8 text

theorem findsCourse_oneCourse {image : Bytes} (bounded : image.length < 2 ^ 64) (text : String) :
    FindsCourse {} courseWorker {} [] "2024052605021211" (oneCourse image text) image text where
  operational := ⟨_, rfl, rfl⟩
  unnamed := rfl
  given := by decide
  found := rfl
  time := by decide
  length := bounded
  connected := by decide

theorem course_survives_letter :
    validUtf8 (utf8 "コ") = true ∧
      (Survives plainLibrary
          (fun encoded => if encoded = utf8 "44Kz" then some (utf8 "コ") else none)
          (relayCourse {} courseWorker {} (courseRequest [] "2024052605021211")
            (oneCourse (utf8 "GIF89a") "コ"))
          (utf8 "GIF89a") (utf8 "コ") ↔
        CourseFits (utf8 "コ")) :=
  ⟨validUtf8_utf8 "コ", course_survives (findsCourse_oneCourse (by decide) "コ") (by decide)⟩

def shiftJisWidth (char : Char) : Nat :=
  if char.toNat < 0x80 ∨ (0xFF61 ≤ char.toNat ∧ char.toNat ≤ 0xFF9F) then 1 else 2

/-- The bytes of a text in Shift_JIS. -/
def shiftJisLength (text : String) : Nat := (text.toList.map shiftJisWidth).sum

theorem length_utf8_ofList (chars : List Char) :
    (utf8 (String.ofList chars)).length = (chars.map Char.utf8Size).sum := by
  unfold utf8
  rw [String.toByteArray_ofList, List.utf8Encode, List.toList_data_toByteArray,
    List.length_flatMap]
  simp

/-- A text of full-width characters. -/
def fullWidth (count : Nat) : String := String.ofList (List.replicate count 'コ')

theorem length_fullWidth (count : Nat) :
    (utf8 (fullWidth count)).length = count * 3 ∧ shiftJisLength (fullWidth count) = count * 2 := by
  have size : 'コ'.utf8Size = 3 := by decide
  have width : shiftJisWidth 'コ' = 2 := by decide
  simp [fullWidth, length_utf8_ofList, shiftJisLength, size, width]

/-- 4082 bytes in Shift_JIS are 6123 in UTF-8. -/
theorem long_course_lost :
    ¬ ∀ (text : String) (image : Bytes) (b64decode : Bytes → Option Bytes),
      shiftJisLength text ≤ 6800 → image.length < 2 ^ 64 →
      b64decode (base64Encode (utf8 text)) = some (utf8 text) →
      Survives plainLibrary b64decode
        (relayCourse {} courseWorker {} (courseRequest [] "2024052605021211")
          (oneCourse image text))
        image (utf8 text) := by
  intro survives
  obtain ⟨size, width⟩ := length_fullWidth 2041
  have long : ¬ (utf8 (fullWidth 2041)).length ≤ 6120 := by
    rw [size]
    decide
  obtain ⟨-, kept⟩ := survives (fullWidth 2041) [] (fun _ => some (utf8 (fullWidth 2041)))
    (by rw [width]; decide) (by decide) rfl strictClient strictClient_reads
  rw [(findsCourse_oneCourse (by decide) (fullWidth 2041)).restarts long] at kept
  cases kept

end JVLinkServer.Client
