import JVLinkServer.Http.Base64
import JVLinkServer.Worker.BusyAnswers

namespace JVLinkServer.Worker

open Effects Http

/-! # Course images

`/course/image` answers with the image as its body and with the explanation in two header
fields, as it is and in Base64.
-/

/-- What `courseFile` returns and hands out, with the bytes of the image file if it can be
read. -/
structure CourseReply where
  code : Int
  image : Option Bytes := none
  explanation : Bytes := []

/-- The status and the message for a code that is neither success nor no data. -/
def courseFailure (code : Int) : Int × String :=
  if code = -114 then (400, "Invalid key parameter")
  else if code = -201 then (500, "JVInit not called")
  else if code = -301 then (401, "Authentication error")
  else if code = -504 then (503, "Server under maintenance")
  else (500, "Unknown error: " ++ toString code)

def answerCourseImage (reply : CourseReply) : Handler Unit := do
  if reply.code = 0 then
    match reply.image with
    | none =>
        respond fun response => { response with status := 500 }
        setJson (errorJson "Failed to read course image file")
    | some image =>
        respond (·.setHeader "X-Course-Explanation" reply.explanation)
        respond (·.setHeader "X-Course-Explanation-Base64" (base64Encode reply.explanation))
        respond (·.setContent image "image/gif")
        respond fun response => { response with status := 200 }
  else
    let (status, message) :=
      if reply.code = -1 then (404, "No data found for the specified key")
      else courseFailure reply.code
    respond fun response => { response with status }
    setJson (.record
      [("error", .record [("code", .integer reply.code), ("message", .text message)])])

/-- `request_json.value("key", "")` -/
def requestKey : Json → Except String Bytes
  | .object members =>
      match members.lookup (utf8 "key") with
      | none => .ok []
      | some (.string key) => .ok key
      | some _ => .error "[json.exception.type_error.302] type must be string"
  | _ => .error "[json.exception.type_error.306] cannot use value()"

def answer400 (message : String) : Handler Unit := do
  respond fun response => { response with status := 400 }
  setJson (errorJson message)

def handleCourseImage (clock : Clock) (request : Http.Request) (lockFree : Bool)
    (courseFile : (key : Bytes) → CourseReply) : Handler Unit :=
  handleOperation clock request .courseImage lockFree
    (if request.body.isEmpty then answer400 "Request body is empty"
    else
      match Json.parse request.body with
      | none => answer400 "Invalid JSON format"
      | some document =>
          match requestKey document with
          | .error what => EStateM.throw what
          | .ok key =>
              if key.isEmpty then answer400 "Missing required parameter: key"
              else answerCourseImage (courseFile key))

/-! ## An answer with an image -/

/-- The response that the handler leaves. -/
def courseAnswer (requestId explanation image : Bytes) (response : Response) : Response :=
  let response := response.setHeader "X-Request-Id" requestId
  let response := response.setHeader "X-Course-Explanation" explanation
  let response := response.setHeader "X-Course-Explanation-Base64" (base64Encode explanation)
  { response.setContent image "image/gif" with status := 200 }

/-- The id that `nextRequestId` makes. -/
def generatedId (clock : Clock) (counter : UInt64) : Bytes :=
  utf8 "req-" ++ decimal clock.milliseconds ++ utf8 "-" ++ decimal counter.toNat

section Answer

variable {clock : Clock} {request : Http.Request} {courseFile : Bytes → CourseReply}

theorem requestKey_record (key : String) :
    requestKey (.record [("key", .text key)]) = .ok (utf8 key) := rfl

theorem visible_generatedId (counter : UInt64) :
    ∀ byte ∈ generatedId clock counter, isFieldVchar byte = true ∧ byte ≠ 37 := by
  have start : (utf8 "req-" ++ utf8 "-").all (fun byte => isFieldVchar byte && byte != 37) =
      true := by decide
  have plain (byte : UInt8) (inside : byte ∈ utf8 "req-" ++ utf8 "-") :
      isFieldVchar byte = true ∧ byte ≠ 37 := by
    simpa using List.all_eq_true.mp start byte inside
  intro byte inside
  simp only [generatedId, List.mem_append] at inside
  obtain ((inside | inside) | inside) | inside := inside
  · exact plain byte (List.mem_append_left _ inside)
  · exact visible_decimal _ byte inside
  · exact plain byte (List.mem_append_right _ inside)
  · exact visible_decimal _ byte inside

/-- A number of 64 bits has twenty characters at most. -/
theorem length_decimal_le {value : Int} (bounded : value.natAbs < 2 ^ 64) :
    (decimal value).length ≤ 21 := by
  have digits {number : Nat} (below : number < 10 ^ 20) : (decimalNat number).length ≤ 20 := by
    rw [decimalNat, List.length_map]
    exact (Nat.length_toDigits_le_iff (by decide) (by decide)).mpr below
  cases value with
  | ofNat number =>
      have below : number < 2 ^ 64 := bounded
      exact Nat.le_succ_of_le (digits (by omega))
  | negSucc number =>
      have below : number + 1 < 2 ^ 64 := bounded
      exact Nat.succ_le_succ (digits (by omega))

/-- A request without an id gets one. -/
theorem ensureRequestId_generates (clock : Clock)
    (unnamed : request.headers.values "X-Request-Id" = [])
    (exchange : Exchange) :
    ∃ counter, ensureRequestId clock request exchange =
      .ok (generatedId clock counter)
        { server := { exchange.server with requestIdCounter := counter }
          response := exchange.response.setHeader "X-Request-Id" (generatedId clock counter) } := by
  have absent : request.headers.value "X-Request-Id" = [] := by
    rw [Headers.value, unnamed]
    rfl
  refine ⟨exchange.server.requestIdCounter + 1, ?_⟩
  simp only [ensureRequestId, absent]
  rfl

/-- An operational worker whose operation lock is free begins. -/
theorem tryBeginOperation_free {exchange : Exchange} {health : Core.JVLinkHealthSnapshot}
    (wrapper : exchange.server.wrapper = some health) (operational : health.operational = true)
    (operation : Operation) (requestId : Bytes) :
    tryBeginOperation clock operation requestId true exchange = .ok true exchange := by
  have ready : ensureWrapperOperational clock operation requestId exchange = .ok true exchange := by
    rw [ensureWrapperOperational, read_bind, wrapper]
    simp only [operational, if_true]
    rfl
  rw [tryBeginOperation, bind_of_ok ready]
  rfl

theorem handleCourseImage_answers (clock : Clock) {server : WorkerServer}
    {health : Core.JVLinkHealthSnapshot}
    (wrapper : server.wrapper = some health) (operational : health.operational = true)
    (unnamed : request.headers.values "X-Request-Id" = []) {key : String} (given : key ≠ "")
    (body : Json.parse request.body = some (.record [("key", .text key)]))
    {explanation image : Bytes}
    (found : courseFile (utf8 key) = { code := 0, image := some image, explanation })
    (response : Response) :
    ∃ counter after, handleCourseImage clock request true courseFile { server, response } =
      .ok () { server := after
               response := courseAnswer (generatedId clock counter) explanation image response } := by
  obtain ⟨counter, named⟩ := ensureRequestId_generates clock unnamed
    { server, response }
  have begins (named : Exchange) (same : named.server.wrapper = server.wrapper) :
      tryBeginOperation clock .courseImage (generatedId clock counter) true named = .ok true named :=
    tryBeginOperation_free (same.trans wrapper) operational _ _
  have sent : request.body.isEmpty = false := by
    cases empty : request.body with
    | nil =>
        rw [empty] at body
        cases body
    | cons byte rest => rfl
  have keyed : (utf8 key).isEmpty = false := by
    rw [utf8_isEmpty]
    simpa using given
  refine ⟨counter, { server with requestIdCounter := counter }, ?_⟩
  simp only [handleCourseImage, handleOperation, sent, body, requestKey_record, keyed, found,
    Bool.false_eq_true, if_false]
  unfold handle
  rw [bind_of_ok named, bind_of_ok (begins _ rfl)]
  rfl

end Answer

end JVLinkServer.Worker
