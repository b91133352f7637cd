import JVLinkServer.Http.Server

namespace JVLinkServer.Http

/-! # Receiving an answer

What `httplib::Client` reads of the answer that a server writes.
-/

/-- `CPPHTTPLIB_HEADER_MAX_LENGTH` -/
def headerMaxLength : Nat := 8192

/-- A turn of the loop of `read_headers`, on a line without its CRLF. -/
def readHeaderLine (line : Bytes) : Option Header :=
  if headerMaxLength < line.length + 2 then none else parseHeader line

def readHeaders (headers : Headers) : Option Headers :=
  headers.mapM fun header => readHeaderLine (writeHeader header)

/-- `read_response_line`: three digits.  After a 100 another status line has to come, and no
field of the same answer is one. -/
def isStatusCode (status : Int) : Bool := 100 < status && status < 1000

/-- The head of an answer. -/
def readHead (response : Response) : Option Response :=
  if isStatusCode response.status then
    (readHeaders response.headers).map fun headers => { status := response.status, headers }
  else none

/-- The encodings that `prepare_content_receiver` knows and this build refuses. -/
def isEncoded (headers : Headers) : Bool :=
  let encoding := headers.value "Content-Encoding"
  encoding = utf8 "gzip" || encoding = utf8 "deflate" || encoding = utf8 "zstd" ||
    encoding.tails.any (utf8 "br").isPrefixOf

/-- Not even an announced body is read behind these. -/
def isBodiless (status : Int) : Bool := status = 204 || status = 304

/-- `read_content` in `process_request`, for any request but a `HEAD`. -/
def readContent (head : Response) (content : Bytes) : Option Bytes :=
  if isBodiless head.status then some []
  else if isEncoded head.headers then none
  else some content

/-- An answer as `Client::send` returns it, its body as far as `Content-Length` or the last
chunk. -/
def receive (response : Response) : Option Response :=
  (readHead response).bind fun head =>
    (readContent head response.content).map fun body => { head with body }

/-- What comes to the response handler and the content receiver of a request that has them.  A
204 comes to neither, and nothing follows a head whose body is refused. -/
def receiveStreaming (response : Response) : Option Response :=
  if response.status = 204 then none
  else
    (readHead response).map fun head =>
      { head with body := (readContent head response.content).getD [] }

theorem readHead_headers {sent head : Response} (read : readHead sent = some head) :
    head.status = sent.status ∧ readHeaders sent.headers = some head.headers ∧
      head.provider = none ∧ isStatusCode sent.status = true := by
  unfold readHead at read
  split at read
  · next valid =>
      obtain ⟨headers, found, rfl⟩ := Option.map_eq_some_iff.mp read
      exact ⟨rfl, found, rfl, valid⟩
  · cases read

/-- What follows this head is read. -/
def readsBody (head : Response) : Bool := !isBodiless head.status && !isEncoded head.headers

theorem readContent_getD (head : Response) (content : Bytes) :
    (readContent head content).getD [] = if readsBody head then content else [] := by
  unfold readContent readsBody
  cases isBodiless head.status with
  | true => rfl
  | false => cases isEncoded head.headers <;> rfl

theorem receive_body {sent upstream : Response} (received : receive sent = some upstream) :
    upstream.body = if readsBody upstream then sent.content else [] := by
  obtain ⟨head, -, rest⟩ := Option.bind_eq_some_iff.mp received
  obtain ⟨body, read, rfl⟩ := Option.map_eq_some_iff.mp rest
  have known := readContent_getD head sent.content
  rw [read] at known
  exact known

/-- An answer without its body is received for these codes only. -/
theorem receive_unread {sent upstream : Response} (received : receive sent = some upstream)
    (unread : readsBody upstream = false) : upstream.status = 204 ∨ upstream.status = 304 := by
  obtain ⟨head, -, rest⟩ := Option.bind_eq_some_iff.mp received
  obtain ⟨body, read, rfl⟩ := Option.map_eq_some_iff.mp rest
  cases bodiless : isBodiless head.status with
  | true => simpa [isBodiless] using bodiless
  | false =>
      have encoded : isEncoded head.headers = true := by simpa [readsBody, bodiless] using unread
      simp [readContent, bodiless, encoded] at read

theorem receiveStreaming_body {sent upstream : Response}
    (received : receiveStreaming sent = some upstream) :
    upstream.body = if readsBody upstream then sent.content else [] := by
  unfold receiveStreaming at received
  split at received
  · cases received
  · obtain ⟨head, -, rfl⟩ := Option.map_eq_some_iff.mp received
    exact readContent_getD head sent.content

/-- The head of an answer that is received. -/
theorem receive_head {sent upstream : Response} (received : receive sent = some upstream) :
    upstream.status = sent.status ∧ readHeaders sent.headers = some upstream.headers ∧
      upstream.provider = none ∧ isStatusCode sent.status = true := by
  obtain ⟨head, read, rest⟩ := Option.bind_eq_some_iff.mp received
  obtain ⟨body, -, rfl⟩ := Option.map_eq_some_iff.mp rest
  have parts := readHead_headers read
  exact parts

theorem receive_success {response : Response} (success : response.status = 200) :
    receive response = (readHeaders response.headers).bind fun headers =>
      if isEncoded headers then none
      else some { status := 200, headers, body := response.content } := by
  have code : isStatusCode 200 = true := rfl
  have bodied : ¬ isBodiless 200 = true := by decide
  rw [receive, readHead, success, if_pos code]
  cases readHeaders response.headers with
  | none => rfl
  | some headers =>
      rw [Option.map_some, Option.bind_some, Option.bind_some, readContent, if_neg bodied]
      split <;> rfl

/-- Content that no field calls encoded. -/
theorem isEncoded_of_absent {headers : Headers}
    (absent : headers.all (fun header => !sameName header.1 (utf8 "Content-Encoding")) = true) :
    isEncoded headers = false := by
  have values : headers.values "Content-Encoding" = [] := by
    rw [Headers.values, List.map_eq_nil_iff, List.filter_eq_nil_iff]
    intro header inside
    simpa using List.all_eq_true.mp absent header inside
  have plain : utf8 "" = [] := rfl
  rw [isEncoded, Headers.value, values, plain]
  decide

theorem receiveStreaming_head {sent upstream : Response}
    (received : receiveStreaming sent = some upstream) :
    upstream.status = sent.status ∧ readHeaders sent.headers = some upstream.headers ∧
      upstream.provider = none ∧ isStatusCode sent.status = true := by
  unfold receiveStreaming at received
  split at received
  · cases received
  · obtain ⟨head, read, rfl⟩ := Option.map_eq_some_iff.mp received
    have parts := readHead_headers read
    exact parts

/-- An answer without a provider has its body for content. -/
theorem content_of_whole {response : Response} (whole : response.provider = none) :
    response.content = response.body := by
  cases body : response.body with
  | nil => simp [Response.content, body, whole]
  | cons byte rest => simp [Response.content, body]

/-! ## Fields that have been checked -/

def isField (header : Header) : Bool := isFieldName header.1 && isFieldValue header.2

/-- A well-formed field on a line that is not too long. -/
def isReadable (header : Header) : Bool :=
  isField header && decide ((writeHeader header).length + 2 ≤ headerMaxLength)

/-- The value that is read where this one was written. -/
def readValue (header : Header) : Bytes :=
  if sameName header.1 (utf8 "Location") || sameName header.1 (utf8 "Referer") then header.2
  else decodeUrl header.2

theorem length_writeHeader (name value : Bytes) :
    (writeHeader (name, value)).length = name.length + 2 + value.length := by
  have separator : (utf8 ": ").length = 2 := by decide
  rw [writeHeader, List.length_append, List.length_append, separator]

theorem isTokenChar_ne_colon {byte : UInt8} (token : isTokenChar byte = true) : byte ≠ 58 := by
  rintro rfl
  revert token
  decide

theorem not_blank_of_vchar {byte : UInt8} (vchar : isFieldVchar byte = true) :
    isSpaceOrTab byte = false := by
  cases blank : isSpaceOrTab byte with
  | false => rfl
  | true =>
      have either : byte = 32 ∨ byte = 9 := by simpa [isSpaceOrTab] using blank
      obtain rfl | rfl := either <;> exact absurd vchar (by decide)

theorem dropWhile_blank_of_value {value : Bytes} (valid : isFieldValue value = true) :
    value.dropWhile isSpaceOrTab = value := by
  cases value with
  | nil => rfl
  | cons byte rest =>
      have first : isFieldVchar byte = true := by
        simp only [isFieldValue, Bool.and_eq_true] at valid
        exact valid.1.1
      rw [List.dropWhile_cons_of_neg]
      simp [not_blank_of_vchar first]

theorem takeWhile_name {name : Bytes} (valid : isFieldName name = true) (rest : Bytes) :
    (name ++ 58 :: rest).takeWhile (· != 58) = name := by
  have tokens : ∀ byte ∈ name, (byte != 58) = true := by
    intro byte inside
    simp only [isFieldName, Bool.and_eq_true, List.all_eq_true] at valid
    exact bne_iff_ne.mpr (isTokenChar_ne_colon (valid.2 byte inside))
  rw [List.takeWhile_append_of_pos tokens]
  simp

/-- The line without its trailing blanks. -/
theorem trim_line {name value : Bytes} (valid : isFieldValue value = true) :
    ((name ++ 58 :: 32 :: value).reverse.dropWhile isSpaceOrTab).reverse =
      if value.isEmpty then name ++ [58] else name ++ 58 :: 32 :: value := by
  obtain rfl | ⟨front, last, rfl⟩ := List.eq_nil_or_concat value
  · have colon : ¬ isSpaceOrTab 58 = true := by decide
    have blank : isSpaceOrTab 32 = true := by decide
    simp [colon, blank]
  · rw [List.concat_eq_append] at valid ⊢
    have solid : isSpaceOrTab last = false := by
      simp only [isFieldValue, Bool.and_eq_true, List.getLast?_concat, Option.all_some] at valid
      exact not_blank_of_vchar valid.1.2
    have whole : (name ++ 58 :: 32 :: (front ++ [last])).reverse =
        last :: (name ++ 58 :: 32 :: front).reverse := by
      simp
    rw [whole, List.dropWhile_cons_of_neg (by simp [solid]), ← whole, List.reverse_reverse]
    simp

theorem parseHeader_writeHeader {header : Header} (valid : isField header = true) :
    parseHeader (writeHeader header) = some (header.1, readValue header) := by
  obtain ⟨name, value⟩ := header
  simp only [isField, Bool.and_eq_true] at valid
  obtain ⟨nameValid, valueValid⟩ := valid
  have line : writeHeader (name, value) = name ++ 58 :: 32 :: value := by
    rw [writeHeader, List.append_assoc]
    rfl
  -- A blank before an empty value goes with the trailing ones.
  have trimmed : ∃ rest, ((writeHeader (name, value)).reverse.dropWhile isSpaceOrTab).reverse =
      name ++ 58 :: rest ∧ rest.dropWhile isSpaceOrTab = value := by
    rw [line, trim_line valueValid]
    cases value with
    | nil => exact ⟨[], rfl, rfl⟩
    | cons byte rest =>
        refine ⟨32 :: byte :: rest, rfl, ?_⟩
        rw [List.dropWhile_cons_of_pos (by decide)]
        exact dropWhile_blank_of_value valueValid
  obtain ⟨rest, cut, found⟩ := trimmed
  simp only [parseHeader, cut, takeWhile_name nameValid, List.drop_left, found, nameValid,
    valueValid, Bool.and_self, if_true, readValue]
  split <;> rfl

/-- A field that was checked is read unless its line is too long. -/
theorem readHeaderLine_writeHeader {header : Header} (valid : isField header = true) :
    readHeaderLine (writeHeader header) =
      if isReadable header then some (header.1, readValue header) else none := by
  rw [readHeaderLine, parseHeader_writeHeader valid, isReadable, valid, Bool.true_and]
  by_cases long : headerMaxLength < (writeHeader header).length + 2
  · simp [long, Nat.not_le.mpr long]
  · simp [long, Nat.le_of_not_lt long]

/-- All fields of an answer are read, or none. -/
theorem readHeaders_eq {headers : Headers} (valid : headers.all isField = true) :
    readHeaders headers =
      if headers.all isReadable then
        some (headers.map fun header => (header.1, readValue header))
      else none := by
  unfold readHeaders
  induction headers with
  | nil => rfl
  | cons header headers ih =>
      rw [List.all_cons, Bool.and_eq_true] at valid
      rw [List.mapM_cons, ih valid.2, readHeaderLine_writeHeader valid.1, List.all_cons]
      cases isReadable header with
      | false => rfl
      | true =>
          simp only [if_true, Bool.true_and]
          split <;> rfl

/-- The field that `write_response_core` adds about the connection. -/
def Connection.field (connection : Connection) : Header :=
  if connection.closes then (utf8 "Connection", utf8 "close")
  else (utf8 "Keep-Alive", connection.keepAlive)

theorem set_field {headers : Headers} {name value : Bytes} (valid : isField (name, value) = true) :
    headers.set name value = headers ++ [(name, value)] :=
  if_pos valid

theorem has_append (first second : Headers) (name : String) :
    (first ++ second).has name = (first.has name || second.has name) :=
  List.any_append

section Framed

variable {connection : Connection} {response : Response}

/-- The first step of `finish`. -/
theorem setHeader_connection (valid : isField connection.field = true) :
    (if connection.closes then response.setHeader "Connection" (utf8 "close")
      else response.setHeader "Keep-Alive" connection.keepAlive) =
      { response with headers := response.headers ++ [connection.field] } := by
  unfold Connection.field at valid ⊢
  cases closes : connection.closes with
  | true =>
      simp only [closes, if_true] at valid
      simp only [if_true, Response.setHeader, set_field valid]
  | false =>
      simp only [closes, Bool.false_eq_true, if_false] at valid
      simp only [Bool.false_eq_true, if_false, Response.setHeader, set_field valid]

theorem connection_field_names (name : String)
    (other : sameName (utf8 "Connection") (utf8 name) = false)
    (other' : sameName (utf8 "Keep-Alive") (utf8 name) = false) :
    Headers.has [connection.field] name = false := by
  unfold Connection.field Headers.has
  split
  · simp [other]
  · simp [other']

/-- An answer that names its content type gets the field of the connection, and a length if
it has neither a body nor a length. -/
theorem finish_typed (valid : isField connection.field = true)
    (typed : response.headers.has "Content-Type" = true) (whole : response.provider = none) :
    connection.finish response =
      { response with
        headers := response.headers ++ [connection.field] ++
          if response.body.isEmpty && !response.headers.has "Content-Length" then
            [(utf8 "Content-Length", utf8 "0")]
          else [] } := by
  have typed' : (response.headers ++ [connection.field]).has "Content-Type" = true := by
    rw [has_append, typed, Bool.true_or]
  have length : (response.headers ++ [connection.field]).has "Content-Length" =
      response.headers.has "Content-Length" := by
    rw [has_append, connection_field_names _ (by decide) (by decide), Bool.or_false]
  have zero : isField (utf8 "Content-Length", utf8 "0") = true := by decide
  simp only [Connection.finish, setHeader_connection valid, Response.hasHeader, typed', whole,
    length, Option.isNone_none, Bool.and_true, Bool.not_true, Bool.and_false, Bool.false_eq_true,
    if_false]
  split
  · simp only [Response.setHeader, set_field zero]
  · simp only [List.append_nil]

/-- The fields that frame a whole answer. -/
def Connection.framing (connection : Connection) (body : Bytes) : Headers :=
  let length := (utf8 "Content-Length", decimal body.length)
  if body.isEmpty then [connection.field, length] else [length, connection.field]

theorem Connection.mem_framing {body : Bytes} {header : Header}
    (inside : header ∈ connection.framing body) :
    header = connection.field ∨ header = (utf8 "Content-Length", decimal body.length) := by
  unfold Connection.framing at inside
  cases body with
  | nil => simpa using inside
  | cons byte rest => exact (by simpa using inside : _ ∨ _).symm

theorem Connection.length_framing (body : Bytes) : (connection.framing body).length = 2 := by
  unfold Connection.framing
  split <;> rfl

/-- A successful answer that names its content type is sent with two fields more. -/
theorem respond_framed (server : Server) (valid : isField connection.field = true)
    {request : Request} (plain : request.ranges = []) (success : response.status = 200)
    (typed : response.headers.has "Content-Type" = true)
    (unframed : response.headers.has "Content-Length" = false) (whole : response.provider = none)
    (lengthValid : isField (utf8 "Content-Length", decimal response.body.length) = true) :
    server.respond connection request response =
      { response with headers := response.headers ++ connection.framing response.body } := by
  have written : server.respond connection request response =
      connection.finish (applyRanges connection.boundary [] response) := by
    have kept : rangeError [] response = some [] := rfl
    have started : ¬ response.status = -1 := by omega
    have good : ¬ 400 ≤ response.status := by omega
    simp only [Server.respond, plain, started, if_false, kept, Server.writeResponse,
      Server.described, good]
  rw [written]
  cases body : response.body with
  | nil =>
      have ranged : applyRanges connection.boundary [] response = response := by
        simp [applyRanges, body, whole]
      rw [ranged, finish_typed valid typed whole, body, unframed]
      have zero : decimal 0 = utf8 "0" := by decide
      simp [Connection.framing, zero, whole]
  | cons byte rest =>
      have ranged : applyRanges connection.boundary [] response =
          response.setHeader "Content-Length" (decimal response.body.length) := by
        simp [applyRanges, body, success]
      have headers :
          (response.setHeader "Content-Length" (decimal response.body.length)).headers =
            response.headers ++ [(utf8 "Content-Length", decimal response.body.length)] :=
        set_field lengthValid
      have typed' : (response.setHeader "Content-Length"
          (decimal response.body.length)).headers.has "Content-Type" = true := by
        rw [headers, has_append, typed, Bool.true_or]
      rw [ranged, finish_typed valid typed' whole, headers]
      simp [Connection.framing, body, Response.setHeader]

end Framed

/-! ## Percent escapes in values -/

theorem decodeUrl_plain {value : Bytes} (plain : 37 ∉ value) : decodeUrl value = value := by
  unfold decodeUrl
  induction value with
  | nil => rfl
  | cons byte rest ih =>
      simp only [List.mem_cons, not_or] at plain
      rw [decodeUrlSkipping, if_neg (Ne.symm plain.1), ih plain.2]

theorem readValue_plain {header : Header} (plain : 37 ∉ header.2) : readValue header = header.2 := by
  unfold readValue
  split
  · rfl
  · exact decodeUrl_plain plain

theorem length_toUtf8_le (code : Nat) : (toUtf8 code).length ≤ 3 := by
  unfold toUtf8
  split
  · simp
  · split
    · simp
    · split <;> simp

theorem length_of_fromHex {count : Nat} {bytes : Bytes} {value code : Nat}
    (found : fromHex? count bytes value = some code) : count ≤ bytes.length := by
  induction count generalizing bytes value with
  | zero => exact Nat.zero_le _
  | succ count ih =>
      cases bytes with
      | nil => cases found
      | cons byte rest =>
          rw [fromHex?] at found
          split at found
          · exact Nat.succ_le_succ (ih found)
          · cases found

/-- Decoding makes no value longer. -/
theorem length_decodeUrlSkipping_le (skip : Nat) (value : Bytes) :
    (decodeUrlSkipping skip value).length + min skip value.length ≤ value.length := by
  induction value generalizing skip with
  | nil => simp [decodeUrlSkipping]
  | cons byte rest ih =>
      cases skip with
      | succ skip =>
          have later := ih skip
          rw [decodeUrlSkipping, List.length_cons]
          omega
      | zero =>
          have unchanged := ih 0
          rw [decodeUrlSkipping]
          split
          · split
            · split
              · next code found =>
                  have digits := length_of_fromHex found
                  have short := length_toUtf8_le code
                  have later := ih 5
                  rw [List.length_drop] at digits
                  rw [List.length_append, List.length_cons]
                  omega
              · rw [List.length_cons, List.length_cons]
                omega
            · split
              · next code found =>
                  have digits := length_of_fromHex found
                  have later := ih 2
                  rw [List.length_cons, List.length_cons]
                  omega
              · rw [List.length_cons, List.length_cons]
                omega
          · rw [List.length_cons, List.length_cons]
            omega

theorem length_decodeUrl_le (value : Bytes) : (decodeUrl value).length ≤ value.length := by
  have shorter := length_decodeUrlSkipping_le 0 value
  rw [decodeUrl]
  omega

end JVLinkServer.Http
