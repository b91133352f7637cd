import JVLinkServer.Effects
import JVLinkServer.Http.Headers

namespace JVLinkServer.Http

/-! # Answering a request

What `httplib::Server` does with the response of a handler before it writes it.
The build enables no compression.
-/

/-- First and last position; -1 where the header leaves one out. -/
abbrev Range := Int × Int

structure Request where
  method : String
  path : String
  headers : Headers := []
  body : Bytes := []
  remoteAddr : String := ""
  ranges : List Range := []
  deriving DecidableEq, Repr

/-- `provider` is all that a chunked content provider will write. -/
structure Response where
  status : Int := -1
  headers : Headers := []
  body : Bytes := []
  provider : Option Bytes := none
  deriving DecidableEq, Repr

namespace Response

def hasHeader (response : Response) (name : String) : Bool := response.headers.has name

def getHeaderValue (response : Response) (name : String) (fallback : String := "") : Bytes :=
  response.headers.value name fallback

def setHeader (response : Response) (name : String) (value : Bytes) : Response :=
  { response with headers := response.headers.set (utf8 name) value }

def setContent (response : Response) (body : Bytes) (contentType : String) : Response :=
  { response with
    body
    headers := (response.headers.erase "Content-Type").set (utf8 "Content-Type") (utf8 contentType) }

def setChunkedContentProvider (response : Response) (contentType content : Bytes) : Response :=
  { response.setHeader "Content-Type" contentType with provider := some content }

/-- The bytes written after the header lines. -/
def content (response : Response) : Bytes :=
  if response.body.isEmpty then response.provider.getD [] else response.body

/-- The answer to a `HEAD` ends with its head. -/
def bodyFor (request : Request) (response : Response) : Bytes :=
  if request.method = "HEAD" then [] else response.content

section Setters

variable (response : Response) (name : String) (value body : Bytes) (contentType : String)

@[simp] theorem setHeader_status : (response.setHeader name value).status = response.status := rfl

@[simp] theorem setHeader_body : (response.setHeader name value).body = response.body := rfl

@[simp] theorem setHeader_provider :
    (response.setHeader name value).provider = response.provider := rfl

@[simp] theorem setContent_status :
    (response.setContent body contentType).status = response.status := rfl

@[simp] theorem setContent_body : (response.setContent body contentType).body = body := rfl

@[simp] theorem setContent_provider :
    (response.setContent body contentType).provider = response.provider := rfl

end Setters

end Response

/-! ## Ranges -/

/-- The pieces between separators, without blanks around them and without empty ones. -/
def splitTrimmed (separator : UInt8) (value : Bytes) : List Bytes :=
  (value.splitOn separator).filterMap fun piece =>
    let piece := ((piece.dropWhile isSpaceOrTab).reverse.dropWhile isSpaceOrTab).reverse
    if piece.isEmpty then none else some piece

/-- Digits as a `long long`; no digits mean -1, and too large a number is an error. -/
def parsePosition (digits : Bytes) : Option Int :=
  if digits.isEmpty then some (-1)
  else if digits.all isDigit && ofDecimal digits < 2 ^ 63 then some (ofDecimal digits)
  else none

def parseRange (piece : Bytes) : Option Range :=
  let left := piece.takeWhile (· != 45)
  match piece.drop left.length with
  | [] => none
  | _ :: right =>
      match parsePosition left, parsePosition right with
      | some first, some last =>
          if (first = -1 ∧ last = -1) ∨ (first ≠ -1 ∧ last ≠ -1 ∧ last < first) then none
          else some (first, last)
      | _, _ => none

def parseRangeHeader (value : Bytes) : Option (List Range) :=
  if 7 < value.length && (utf8 "bytes=").isPrefixOf value then
    ((splitTrimmed 44 (value.drop 6)).mapM parseRange).filter fun ranges => !ranges.isEmpty
  else
    none

def resolveRange (length : Int) (range : Range) : Range :=
  let range := if range.1 = -1 ∧ range.2 = -1 then (0, length) else range
  let range := if range.1 = -1 then (length - range.2, length - 1) else range
  if range.2 = -1 ∨ length ≤ range.2 then (range.1, length - 1) else range

/-- The loop of `range_error`. -/
def checkRanges (length : Int) :
    (prevFirst prevLast : Int) → (overlaps : Nat) → List Range → Option (List Range)
  | _, _, _, [] => some []
  | prevFirst, prevLast, overlaps, range :: rest =>
      let range := resolveRange length range
      let overlaps := if range.1 ≤ prevLast then overlaps + 1 else overlaps
      if ¬ (0 ≤ range.1 ∧ range.1 ≤ range.2 ∧ range.2 ≤ length - 1) then none
      else if range.1 ≤ prevFirst then none
      else if 2 < overlaps then none
      else
        (checkRanges length (max prevFirst range.1) (max prevLast range.2) overlaps rest).map
          (range :: ·)

/-- `range_error`: nothing if the ranges are refused, else the ranges as it leaves them. -/
def rangeError (ranges : List Range) (response : Response) : Option (List Range) :=
  if !ranges.isEmpty && 200 ≤ response.status && response.status < 300 then
    if 1024 < ranges.length then none
    else checkRanges response.body.length (-1) (-1) 0 ranges
  else
    some ranges

def rangeOf (body : Bytes) (range : Range) : Bytes :=
  (body.drop range.1.toNat).take ((range.2 - range.1).toNat + 1)

def makeContentRange (range : Range) (length : Nat) : Bytes :=
  utf8 "bytes " ++ decimal range.1 ++ utf8 "-" ++ decimal range.2 ++ utf8 "/" ++ decimal length

def makeMultipartRangesData (boundary contentType body : Bytes) (ranges : List Range) : Bytes :=
  (ranges.flatMap fun range =>
    utf8 "--" ++ boundary ++ utf8 "\r\n" ++
      (if contentType.isEmpty then [] else utf8 "Content-Type: " ++ contentType ++ utf8 "\r\n") ++
      utf8 "Content-Range: " ++ makeContentRange range body.length ++ utf8 "\r\n\r\n" ++
      rangeOf body range ++ utf8 "\r\n") ++
    utf8 "--" ++ boundary ++ utf8 "--"

/-- `apply_ranges`, with the random boundary of a multipart body. -/
def applyRanges (boundary : Bytes) (ranges : List Range) (response : Response) : Response :=
  let several := 1 < ranges.length && response.status = 206
  let contentType := if several then (response.headers.values "Content-Type").headD [] else []
  let response :=
    if several then
      { response with
        headers := (response.headers.eraseFirst "Content-Type").set (utf8 "Content-Type")
          (utf8 "multipart/byteranges; boundary=" ++ boundary) }
    else
      response
  if response.body.isEmpty then
    if response.provider.isSome then response.setHeader "Transfer-Encoding" (utf8 "chunked")
    else response
  else
    let response :=
      if response.status ≠ 206 then response
      else
        match ranges with
        | [] => response
        | [range] =>
            { response.setHeader "Content-Range" (makeContentRange range response.body.length) with
              body := rangeOf response.body range }
        | _ =>
            { response with
              body := makeMultipartRangesData boundary contentType response.body ranges }
    response.setHeader "Content-Length" (decimal response.body.length)

/-! ## Writing the answer -/

/-- The handlers that a program registers around its routes. -/
structure Server where
  preRoutingHandler : Response → Response
  errorHandler : Response → Response
  exceptionHandler : (what : String) → Response → Response

/-- What else decides how an answer is written. -/
structure Connection where
  closes : Bool := false
  keepAlive : Bytes := utf8 "timeout=5, max=100"
  boundary : Bytes := utf8 "--cpp-httplib-multipart-data-0123456789abcdef"

/-- The error handler sees every answer with an error status. -/
def Server.described (server : Server) (response : Response) : Response :=
  if 400 ≤ response.status then server.errorHandler response else response

/-- The header fields that `write_response_core` adds last. -/
def Connection.finish (connection : Connection) (response : Response) : Response :=
  let response :=
    if connection.closes then response.setHeader "Connection" (utf8 "close")
    else response.setHeader "Keep-Alive" connection.keepAlive
  let response :=
    if (!response.body.isEmpty || response.provider.isSome) && !response.hasHeader "Content-Type" then
      response.setHeader "Content-Type" (utf8 "text/plain")
    else
      response
  if response.body.isEmpty && response.provider.isNone && !response.hasHeader "Content-Length" then
    response.setHeader "Content-Length" (utf8 "0")
  else
    response

/-- `write_response_core` up to the header lines. -/
def Server.writeResponse (server : Server) (connection : Connection) (ranges : List Range)
    (response : Response) : Response :=
  connection.finish (applyRanges connection.boundary ranges (server.described response))

/-- `process_request` from the return of the handler on. -/
def Server.respond (server : Server) (connection : Connection) (request : Request)
    (response : Response) : Response :=
  let response :=
    if response.status = -1 then
      { response with status := if request.ranges.isEmpty then 200 else 206 }
    else
      response
  match rangeError request.ranges response with
  | none =>
      server.writeResponse connection []
        { response with status := 416, body := [], provider := none }
  | some ranges => server.writeResponse connection ranges response

/-! ## What is written -/

section Written

variable (connection : Connection) (boundary : Bytes) (ranges : List Range) (response : Response)

@[simp] theorem finish_status : (connection.finish response).status = response.status := by
  unfold Connection.finish
  grind [Response.setHeader_status]

@[simp] theorem finish_body : (connection.finish response).body = response.body := by
  unfold Connection.finish
  grind [Response.setHeader_body]

@[simp] theorem finish_provider : (connection.finish response).provider = response.provider := by
  unfold Connection.finish
  grind [Response.setHeader_provider]

@[simp] theorem applyRanges_status :
    (applyRanges boundary ranges response).status = response.status := by
  unfold applyRanges
  grind [Response.setHeader_status]

@[simp] theorem applyRanges_provider :
    (applyRanges boundary ranges response).provider = response.provider := by
  unfold applyRanges
  grind [Response.setHeader_provider]

theorem applyRanges_empty (empty : response.body = []) :
    (applyRanges boundary ranges response).body = [] := by
  unfold applyRanges
  grind [Response.setHeader_body]

theorem applyRanges_whole (whole : response.status ≠ 206 ∨ ranges = []) :
    (applyRanges boundary ranges response).body = response.body := by
  unfold applyRanges
  grind [Response.setHeader_body]

/-- A handler's answer with a body goes out as it is when the request asks for no range. -/
theorem Server.respond_whole (server : Server) {request : Request} (plain : request.ranges = [])
    (described : 400 ≤ response.status → server.errorHandler response = response) :
    (server.respond connection request response).status =
        (if response.status = -1 then 200 else response.status) ∧
      (server.respond connection request response).body = response.body := by
  unfold Server.respond
  have kept : ∀ answer : Response, rangeError [] answer = some [] := fun _ => rfl
  simp only [plain, kept, Server.writeResponse, finish_status, finish_body, applyRanges_status,
    applyRanges_whole _ _ _ (.inr rfl), List.isEmpty_nil, if_true]
  split
  · simp [Server.described]
  · simp only [Server.described]
    split
    · rename_i error
      simp [described error]
    · simp

end Written

/-! ## The fields of the framing -/

/-- A field that the server itself may write beside those of the handler. -/
def isFraming (name : String) : Bool :=
  ["Content-Type", "Content-Length", "Content-Range", "Transfer-Encoding", "Connection",
    "Keep-Alive"].any fun framing => sameName (utf8 framing) (utf8 name)

section Framing

variable {name : String} {response : Response}

theorem setHeader_values_other {field : String} {value : Bytes}
    (other : sameName (utf8 field) (utf8 name) = false) :
    (response.setHeader field value).headers.values name = response.headers.values name :=
  Headers.values_set_other other

theorem setContent_values_other {body : Bytes} {contentType : String}
    (other : isFraming name = false) :
    (response.setContent body contentType).headers.values name = response.headers.values name := by
  simp only [isFraming, List.any_cons, Bool.or_eq_false_iff] at other
  exact (Headers.values_set_other other.1).trans (Headers.values_erase_other other.1)

theorem finish_values_other (connection : Connection) (other : isFraming name = false) :
    (connection.finish response).headers.values name = response.headers.values name := by
  simp only [isFraming, List.any_cons, Bool.or_eq_false_iff] at other
  obtain ⟨contentType, contentLength, _, _, close, keepAlive, _⟩ := other
  unfold Connection.finish
  grind [setHeader_values_other]

theorem applyRanges_values_other (boundary : Bytes) (ranges : List Range)
    (other : isFraming name = false) :
    (applyRanges boundary ranges response).headers.values name = response.headers.values name := by
  simp only [isFraming, List.any_cons, Bool.or_eq_false_iff] at other
  obtain ⟨contentType, contentLength, contentRange, transferEncoding, _⟩ := other
  have multipart (value : Bytes) :
      ((response.headers.eraseFirst "Content-Type").set (utf8 "Content-Type") value).values name =
        response.headers.values name := by
    rw [Headers.values_set_other contentType, Headers.values_eraseFirst_other contentType]
  unfold applyRanges
  grind [setHeader_values_other]

/-- The server adds no field of another name, if its error handler does not. -/
theorem Server.respond_values_other (server : Server) (connection : Connection) (request : Request)
    (kept : ∀ response, (server.errorHandler response).headers.values name =
      response.headers.values name)
    (other : isFraming name = false) :
    (server.respond connection request response).headers.values name =
      response.headers.values name := by
  have described (response : Response) :
      (server.described response).headers.values name = response.headers.values name := by
    unfold Server.described
    split
    · exact kept response
    · rfl
  have written (ranges : List Range) (response : Response) :
      (server.writeResponse connection ranges response).headers.values name =
        response.headers.values name := by
    rw [Server.writeResponse, finish_values_other connection other,
      applyRanges_values_other _ _ other, described]
  have ranged (started : Response) (same : started.headers = response.headers) :
      (match rangeError request.ranges started with
        | none =>
            server.writeResponse connection []
              { started with status := 416, body := [], provider := none }
        | some ranges => server.writeResponse connection ranges started).headers.values name =
        response.headers.values name := by
    rw [← same]
    split
    · exact written _ _
    · exact written _ _
  exact ranged _ (by split <;> rfl)

/-- An error that its handler described keeps its status, its body and its own fields. -/
theorem Server.respond_error (server : Server) (connection : Connection) (request : Request)
    (error : 400 ≤ response.status) (described : server.errorHandler response = response) :
    (server.respond connection request response).status = response.status ∧
      (server.respond connection request response).body = response.body ∧
      ∀ name, isFraming name = false →
        (server.respond connection request response).headers.values name =
          response.headers.values name := by
  have notWhole : response.status ≠ 206 := by omega
  have kept : rangeError request.ranges response = some request.ranges := by
    unfold rangeError
    rw [if_neg]
    simp only [Bool.and_eq_true, decide_eq_true_eq]
    omega
  unfold Server.respond
  rw [if_neg (by omega : ¬ response.status = -1)]
  simp only [kept, Server.writeResponse, Server.described, if_pos error, described, finish_status,
    finish_body, applyRanges_status, applyRanges_whole _ _ _ (.inl notWhole), true_and]
  intro name other
  rw [finish_values_other connection other, applyRanges_values_other _ _ other]

end Framing

end JVLinkServer.Http
