import JVLinkServer.Client.ClosedResponses
import JVLinkServer.Client.FailingIterators

namespace JVLinkServer.Client

open AsyncGenerators

/-! # Which failures surface -/

/-! ## What an answer of the server reports -/

/-- What an answer comes to before its rows are read. -/
inductive Report
  | unforeseen
  | failure
  | busy (retryAfter : Option Int)
  | noData
  | rows
  deriving DecidableEq

section Reports

variable (library : PythonLibrary)

/-- A clause of the outer `try` names the exception. -/
def HttpxException.isNamed (exception : HttpxException) : Bool :=
  exception.isTimeout || exception.isNetworkError

def exceptionReport (exception : HttpxException) : Report :=
  if exception.isNamed then .failure else .unforeseen

/-- The code of a busy session. -/
def isBusyCode (code : Json) : Bool :=
  match errorClass library code .serverError with
  | .ok .busyError => true
  | _ => false

def codeReport (code : Json) (retryAfter : Option Int := none) : Report :=
  if isBusyCode library code then .busy retryAfter else .failure

/-- What the member `meta` comes to. -/
def metaReport : Json → Report
  | .object metadata =>
      match metadata.lookup (utf8 "error_code") with
      | none => .rows
      | some code =>
          if library.equals code 0 then .rows
          else if library.equals code (-1) then .noData
          else if isHashable code then codeReport library code
          else .unforeseen
  | .array items => if items.any (isString "error_code") then .unforeseen else .rows
  | .string text => if utf8 "error_code" <:+: text then .unforeseen else .rows
  | _ => .unforeseen

/-- What the first line that is not blank comes to. -/
def metadataReport : Json → Report
  | .object members =>
      match members.lookup (utf8 "error") with
      | some (.object info) =>
          let code := (info.lookup (utf8 "code")).getD .null
          if isInt code then codeReport library code else .failure
      | some _ => .unforeseen
      | none =>
          match members.lookup (utf8 "meta") with
          | some metadata => metaReport library metadata
          | none => .failure
  | .array items =>
      if items.any (isString "error") ∨ items.any (isString "meta") then .unforeseen else .failure
  | .string text =>
      if utf8 "error" <:+: text ∨ utf8 "meta" <:+: text then .unforeseen else .failure
  | _ => .unforeseen

/-- What a status that is no success comes to. -/
def statusReport (response : HttpResponse) : Report :=
  match response.content with
  | .error exception => if exception.isStreamError then .failure else exceptionReport exception
  | .ok text =>
      match library.loadsBytes text with
      | .error (.jsonDecodeError _) | .error .unicodeDecodeError => .failure
      | .error _ => .unforeseen
      | .ok body =>
          match body.member? "error" with
          | some (.object info) =>
              let code := (info.lookup (utf8 "code")).getD .null
              if isInt code then codeReport library code (parseRetryAfter response.header)
              else .failure
          | _ => .failure

def isBlankLine (line : Bytes) : Bool := decide (pythonStrip (characters line) = [])

def streamReport (response : HttpResponse) : Report :=
  match response.lines.dropWhile isBlankLine with
  | line :: _ =>
      match library.loads line with
      | .ok metaData => metadataReport library metaData
      | .error (.jsonDecodeError _) => .failure
      | .error _ => .unforeseen
  | [] =>
      match response.failure with
      | some exception => exceptionReport exception
      | none => .failure

def Exchange.report : Exchange → Report
  | .fails exception => exceptionReport exception
  | .responds response =>
      if response.isSuccess then streamReport library response else statusReport library response

/-- The lines after the metadata line, and how they end. -/
def Exchange.rest : Exchange → List Bytes × Option HttpxException
  | .fails _ => ([], none)
  | .responds response => ((response.lines.dropWhile isBlankLine).tail, response.failure)

/-- No row comes after the line, because it is malformed or reports an error. -/
def endsReading (line : Bytes) : Bool :=
  match library.loads line with
  | .ok payload => (payload.member? "error").isSome
  | .error (.jsonDecodeError _) => true
  | .error _ => false

/-- The lines after it are read. -/
def goesOn (line : Bytes) : Bool := line.isEmpty || !endsReading library line

/-- `json.loads` gives a value or a `JSONDecodeError`, where it is called. -/
def decodes (line : Bytes) : Bool :=
  line.isEmpty ||
    match library.loads line with
    | .ok _ | .error (.jsonDecodeError _) => true
    | .error _ => false

/-- The lines that are read decode, and `httpx` raises nothing while they are. -/
structure RowsForeseen (lines : List Bytes) (failure : Option HttpxException) : Prop where
  decode : ∀ line ∈ lines.takeWhile (goesOn library), decodes library line = true
  complete : failure = none ∨ ∃ line ∈ lines, goesOn library line = false

/-- The clauses of the transport expect everything about an exchange. -/
structure Exchange.Foreseen (exchange : Exchange) : Prop where
  opening : exchange.report library ≠ .unforeseen
  rows : exchange.report library = .rows → RowsForeseen library exchange.rest.1 exchange.rest.2

end Reports

/-! ## Rows -/

section Lines

variable {python : PythonStr} {library : PythonLibrary}

variable (library) in
theorem errorClass_isBusy (code : Json) (fallback : ErrorClass) (other : fallback ≠ .busyError) :
    errorClass library code fallback = .ok .busyError ↔ isBusyCode library code = true := by
  unfold isBusyCode errorClass
  cases isHashable code with
  | false => simp
  | true =>
      cases errorCodeMap.find? fun entry => library.equals code entry.1 with
      | none => simp [other]
      | some entry =>
          obtain ⟨number, cls⟩ := entry
          cases cls <;> simp

variable (library) in
/-- An error built for a code that can be looked up. -/
theorem buildErrorForCode_ok {code : Json} (hashable : isHashable code = true) (message : Bytes)
    (fallback : ErrorClass) (other : fallback ≠ .busyError) (retryAfter : Option Int)
    (busyContext : BusyContext) :
    ∃ error, buildErrorForCode library code message fallback retryAfter busyContext = .ok error ∧
      error.cause = none ∧
      (if isBusyCode library code then error.cls = .busyError ∧ error.retryAfter = retryAfter
        else error.cls ≠ .busyError) := by
  have busy := errorClass_isBusy library code fallback other
  have found : ∃ cls, errorClass library code fallback = .ok cls := by
    rw [errorClass, if_pos hashable]
    split <;> exact ⟨_, rfl⟩
  obtain ⟨cls, found⟩ := found
  rw [found, Except.ok.injEq] at busy
  by_cases named : cls = .busyError
  · subst named
    simp only [busy.1 rfl, if_true]
    exact ⟨_, by rw [buildErrorForCode, found]; rfl, rfl, rfl, rfl⟩
  · have idle : ¬ isBusyCode library code = true := fun code => named (busy.2 code)
    simp only [idle]
    exact ⟨{ cls, message, errorCode := code },
      by rw [buildErrorForCode, found]; cases cls <;> first | rfl | exact absurd rfl named,
      rfl, named⟩

theorem isHashable_of_isInt {code : Json} (number : isInt code = true) :
    isHashable code = true := by
  cases code <;> simp_all [isInt, isHashable]

variable (python library) in
theorem streamError_reports (message code : Json) :
    ∃ error, streamError python library message code = .jvLink error ∧ error.cause = none ∧
      (if isInt code = true ∧ isBusyCode library code = true then
          error.cls = .busyError ∧ error.retryAfter = none
        else error.cls ≠ .busyError) := by
  unfold streamError
  by_cases number : isInt code = true
  · obtain ⟨error, built, cause, cls⟩ := buildErrorForCode_ok library
      (isHashable_of_isInt number)
      (utf8 "JVLinkServer stream error: " ++ formatted python message)
      .serverError (by simp) none {}
    exact ⟨error, by simp only [if_pos number, built], cause, by simpa [number] using cls⟩
  · exact ⟨_, if_neg number, rfl, by simp [number]⟩

theorem surfaces_of_no_cause {error : JVLinkError} (cause : error.cause = none) :
    (PythonException.jvLink error).Surfaces := by
  intro exception chained
  rw [cause] at chained
  cases chained

theorem dataError_surfaces (message : Bytes) :
    (dataError message (some .jsonDecodeError)).Surfaces := by
  intro exception chained
  cases chained

variable (python library) in
/-- What a line that is not empty does. -/
theorem readRow_cases {line : Bytes} (solid : line.isEmpty = false) :
    (∃ row, readRow python library line = .ok row ∧ goesOn library line = true ∧
        decodes library line = true) ∨
      (∃ exception, readRow python library line = .error exception ∧ exception.Surfaces ∧
        goesOn library line = false) ∨
      ∃ exception, readRow python library line = .error (.builtin exception) ∧
        goesOn library line = true ∧ decodes library line = false := by
  simp only [goesOn, decodes, solid, Bool.false_or]
  unfold readRow endsReading loadsLine
  cases library.loads line with
  | error exception =>
      cases exception with
      | jsonDecodeError message => exact .inr (.inl ⟨_, rfl, dataError_surfaces _, rfl⟩)
      | _ => exact .inr (.inr ⟨_, rfl, rfl, rfl⟩)
  | ok payload =>
      simp only [raising]
      cases payload.member? "error" with
      | none => exact .inl ⟨payload, rfl, rfl, trivial⟩
      | some info =>
          right
          left
          cases info with
          | object members =>
              obtain ⟨error, reported, cause, -⟩ := streamError_reports python library
                (((Json.object members).member? "message").getD (Json.text "Unknown error"))
                (((Json.object members).member? "code").getD .null)
              exact ⟨_, rfl, by rw [reported]; exact surfaces_of_no_cause cause, rfl⟩
          | _ => exact ⟨_, rfl, surfaces_of_no_cause rfl, rfl⟩

section Foreseen

variable {line : Bytes} {rest : List Bytes} {failure : Option HttpxException}

theorem rowsForeseen_nil : RowsForeseen library [] failure ↔ failure = none :=
  ⟨fun foreseen => foreseen.complete.resolve_right (by simp), fun ended => ⟨by simp, .inl ended⟩⟩

theorem rowsForeseen_goesOn (goes : goesOn library line = true) :
    RowsForeseen library (line :: rest) failure ↔
      decodes library line = true ∧ RowsForeseen library rest failure := by
  have lines : (line :: rest).takeWhile (goesOn library) =
      line :: rest.takeWhile (goesOn library) := List.takeWhile_cons_of_pos goes
  constructor
  · intro ⟨decode, complete⟩
    rw [lines] at decode
    refine ⟨decode line (.head _), fun other member => decode other (.tail _ member), ?_⟩
    refine complete.imp_right fun ⟨other, member, stops⟩ => ?_
    cases member with
    | head => rw [goes] at stops; cases stops
    | tail _ member => exact ⟨other, member, stops⟩
  · intro ⟨decoded, decode, complete⟩
    refine ⟨fun other member => ?_, complete.imp_right fun ⟨other, member, stops⟩ =>
      ⟨other, .tail _ member, stops⟩⟩
    rw [lines] at member
    cases member with
    | head => exact decoded
    | tail _ member => exact decode other member

theorem rowsForeseen_stops (stops : goesOn library line = false) :
    RowsForeseen library (line :: rest) failure := by
  refine ⟨fun other member => ?_, .inr ⟨line, .head _, stops⟩⟩
  rw [List.takeWhile_cons_of_neg (by simp [stops])] at member
  cases member

end Foreseen

/-- The exception after the rows surfaces exactly when everything about them is
foreseen. -/
theorem rowsOf_surface_iff (failure : Option HttpxException) (lines : List Bytes) :
    (∀ exception, (rowsOf python library failure lines).2 = some exception →
        exception.Surfaces) ↔
      RowsForeseen library lines failure := by
  induction lines with
  | nil =>
      rw [rowsForeseen_nil]
      cases failure with
      | none => exact ⟨fun _ => rfl, fun _ _ raised => nomatch raised⟩
      | some exception =>
          exact ⟨fun surface => absurd (surface _ rfl) id, fun ended => nomatch ended⟩
  | cons line rest ih =>
      by_cases empty : line.isEmpty = true
      · have goes : goesOn library line = true := by simp [goesOn, empty]
        rw [rowsOf, if_pos empty, ih, rowsForeseen_goesOn goes]
        simp [decodes, empty]
      · rw [rowsOf, if_neg empty]
        obtain ⟨row, read, goes, decoded⟩ | ⟨exception, read, surfaces, stops⟩ |
          ⟨exception, read, goes, broken⟩ :=
            readRow_cases python library (Bool.eq_false_iff.2 empty)
        · simp only [read]
          rw [ih, rowsForeseen_goesOn goes]
          simp [decoded]
        · simp only [read]
          refine ⟨fun _ => rowsForeseen_stops stops, fun _ _ raised => ?_⟩
          cases raised
          exact surfaces
        · simp only [read]
          rw [rowsForeseen_goesOn goes]
          refine ⟨fun surface => absurd (surface _ rfl) id, fun foreseen => ?_⟩
          rw [broken] at foreseen
          cases foreseen.1

/-! ## Openings -/

/-- An outcome of an opening, with the exceptions as they leave it, is what a report
tells of it. -/
inductive Leads (lines : List Bytes) (failure : Option HttpxException) :
    Report → Except PythonException Opened → Prop
  | httpx {exception : HttpxException} : Leads lines failure .unforeseen (.error (.httpx exception))
  | builtin {exception : BuiltinException} :
      Leads lines failure .unforeseen (.error (.builtin exception))
  | failure {error : JVLinkError} (surfaces : (PythonException.jvLink error).Surfaces)
      (idle : error.cls ≠ .busyError) : Leads lines failure .failure (.error (.jvLink error))
  | busy {error : JVLinkError} (surfaces : (PythonException.jvLink error).Surfaces)
      (busy : error.cls = .busyError) :
      Leads lines failure (.busy error.retryAfter) (.error (.jvLink error))
  | noData {opened : Opened} (noData : opened.noData = true) :
      Leads lines failure .noData (.ok opened)
  | rows {opened : Opened} (reads : opened.noData = false) (same : opened.lines = lines)
      (ends : opened.failure = failure) : Leads lines failure .rows (.ok opened)

/-- What leaves the outer `try`. -/
def converted : Except PythonException Opened → Except PythonException Opened
  | .ok opened => .ok opened
  | .error exception => .error (convertException exception)

section Openings

variable {lines : List Bytes} {failure : Option HttpxException}

theorem leads_exception (exception : HttpxException) :
    Leads lines failure (exceptionReport exception)
      (converted (.error (.httpx exception))) := by
  cases timeout : exception.isTimeout with
  | true =>
      have named : exception.isNamed = true := by simp [HttpxException.isNamed, timeout]
      rw [exceptionReport, if_pos named]
      simp only [converted, convertException, timeout, if_true]
      exact .failure (fun _ _ _ => rfl) (by simp)
  | false =>
      have surfaces (message : Bytes) : (PythonException.jvLink
          { cls := .connectionError, message, cause := some (.httpx exception) }).Surfaces := by
        intro other chained late
        cases chained
        rw [timeout] at late
        cases late
      cases network : exception.isNetworkError with
      | true =>
          have named : exception.isNamed = true := by simp [HttpxException.isNamed, network]
          rw [exceptionReport, if_pos named]
          simp only [converted, convertException, timeout, network, if_true, Bool.false_eq_true,
            if_false]
          split <;> exact .failure (surfaces _) (by simp)
      | false =>
          have unnamed : ¬ exception.isNamed = true := by
            simp [HttpxException.isNamed, timeout, network]
          have other : exception.kind ≠ .connectError := by
            intro connect
            simp [HttpxException.isNetworkError, connect] at network
          rw [exceptionReport, if_neg unnamed]
          simp only [converted, convertException, timeout, network, other, Bool.false_eq_true,
            if_false]
          exact .httpx

theorem leads_surfaced (error : JVLinkError) {code : Json} {retryAfter : Option Int}
    (surfaces : (PythonException.jvLink error).Surfaces)
    (cls : if isBusyCode library code then
        error.cls = .busyError ∧ error.retryAfter = retryAfter
      else error.cls ≠ .busyError) :
    Leads lines failure (codeReport library code retryAfter) (.error (.jvLink error)) := by
  cases busy : isBusyCode library code with
  | true =>
      rw [busy, if_pos rfl] at cls
      obtain ⟨named, rfl⟩ := cls
      rw [codeReport, if_pos busy]
      exact .busy surfaces named
  | false =>
      have idle : ¬ isBusyCode library code = true := by simp [busy]
      rw [if_neg idle] at cls
      rw [codeReport, if_neg idle]
      exact .failure surfaces cls

theorem leads_streamError (message code : Json) :
    Leads lines failure (if isInt code then codeReport library code else .failure)
      (converted (.error (streamError python library message code))) := by
  obtain ⟨error, reported, cause, cls⟩ :=
    streamError_reports python library message code
  rw [reported]
  by_cases number : isInt code = true
  · rw [if_pos number]
    exact leads_surfaced _ (surfaces_of_no_cause cause) (by simpa [number] using cls)
  · rw [if_neg number]
    exact .failure (surfaces_of_no_cause cause) (by simpa [number] using cls)

/-- An exception of the interpreter in the opening. -/
theorem leads_typeError : Leads lines failure .unforeseen
    (converted (.error (.builtin .typeError))) := .builtin

theorem leads_attributeError : Leads lines failure .unforeseen
    (converted (.error (.builtin .attributeError))) := .builtin

theorem leads_dataError (message : Bytes) (cause : Option Cause)
    (other : ∀ exception, cause ≠ some (.httpx exception)) :
    Leads lines failure .failure (converted (.error (dataError message cause))) :=
  .failure (fun exception chained => absurd chained (other exception)) (by simp)

theorem leads_raised {code : Json} (hashable : isHashable code = true) (message : Bytes) :
    Leads lines failure (codeReport library code)
      (converted (.error (raiseForErrorCode library code message))) := by
  obtain ⟨error, built, cause, cls⟩ := buildErrorForCode_ok library hashable message
    .openError (by simp) none {}
  rw [raiseForErrorCode, built]
  exact leads_surfaced _ (surfaces_of_no_cause cause) cls

theorem raiseForErrorCode_unhashable {code : Json} (unhashable : isHashable code = false)
    (message : Bytes) : raiseForErrorCode library code message = .builtin .typeError := by
  simp [raiseForErrorCode, buildErrorForCode, errorClass, unhashable, bind, Except.bind]

theorem openRows_leads (metadata : Json) :
    Leads lines failure (metaReport library metadata)
      (converted (openRows python library failure metadata lines)) := by
  cases metadata with
  | object members =>
      cases found : members.lookup (utf8 "error_code") with
      | none =>
          simp only [metaReport, openRows, contains, found, raising]
          exact .rows rfl rfl rfl
      | some code =>
          cases zero : library.equals code 0 with
          | true =>
              have opened : openRows python library failure (.object members) lines =
                  .ok { metadata := .object members, lines, failure } := by
                simp [openRows, contains, subscript, found, raising, zero, bind, Except.bind, pure,
                  Except.pure]
              rw [opened]
              simp only [metaReport, found, zero, if_true]
              exact .rows rfl rfl rfl
          | false =>
              cases ends : library.equals code (-1) with
              | true =>
                  have opened : openRows python library failure (.object members) lines =
                      .ok { metadata := .object members, noData := true, lines, failure } := by
                    simp [openRows, contains, subscript, found, raising, zero, ends, bind,
                      Except.bind, pure, Except.pure]
                  rw [opened]
                  simp only [metaReport, found, zero, ends, Bool.false_eq_true, if_true, if_false]
                  exact .noData rfl
              | false =>
                  have raised : openRows python library failure (.object members) lines =
                      .error (raiseForErrorCode library code (formatted python
                        ((members.lookup (utf8 "error_message")).getD (.string
                          (utf8 "JVOpen error (code: " ++ formatted python code ++ utf8 ")"))))) := by
                    simp [openRows, contains, subscript, getMember, found, raising, zero, ends,
                      bind, Except.bind, throw, throwThe, MonadExceptOf.throw]
                  rw [raised]
                  simp only [metaReport, found, zero, ends, Bool.false_eq_true, if_false]
                  cases hashable : isHashable code with
                  | true => exact leads_raised hashable _
                  | false =>
                      rw [raiseForErrorCode_unhashable hashable]
                      exact leads_typeError
  | array items =>
      cases named : items.any (isString "error_code") <;>
        simp only [metaReport, openRows, contains, subscript, raising, named]
      · exact .rows rfl rfl rfl
      · exact leads_typeError
  | string text =>
      by_cases named : utf8 "error_code" <:+: text <;>
        simp only [metaReport, openRows, contains, subscript, raising, named, decide_true,
          decide_false]
      · exact leads_typeError
      · exact .rows rfl rfl rfl
  | _ => exact leads_typeError

theorem openStream_leads (metaData : Json) :
    Leads lines failure (metadataReport library metaData)
      (converted (openStream python library failure metaData lines)) := by
  cases metaData with
  | object members =>
      cases found : members.lookup (utf8 "error") with
      | some info =>
          simp only [metadataReport, openStream, contains, subscript, found, raising]
          cases info with
          | object info =>
              exact leads_streamError ((info.lookup (utf8 "message")).getD _)
                ((info.lookup (utf8 "code")).getD .null)
          | _ => exact leads_attributeError
      | none =>
          cases described : members.lookup (utf8 "meta") with
          | none =>
              simp only [metadataReport, openStream, contains, found, described, raising]
              exact leads_dataError _ none (by simp)
          | some metadata =>
              simp only [metadataReport, openStream, contains, subscript, found, described, raising]
              exact openRows_leads metadata
  | array items =>
      cases error : items.any (isString "error") <;>
        cases described : items.any (isString "meta") <;>
        simp only [metadataReport, openStream, contains, subscript, raising, error, described]
      · exact leads_dataError _ none (by simp)
      all_goals exact leads_typeError
  | string text =>
      by_cases error : utf8 "error" <:+: text <;>
        by_cases described : utf8 "meta" <:+: text <;>
        simp only [metadataReport, openStream, contains, subscript, raising, error, described,
          decide_true, decide_false]
      · exact leads_typeError
      · exact leads_typeError
      · exact leads_typeError
      · exact leads_dataError _ none (by simp)
  | _ => exact leads_typeError

theorem readMetadataLine_eq (failure : Option HttpxException) (lines : List Bytes) :
    readMetadataLine failure lines =
      match lines.dropWhile isBlankLine with
      | line :: rest => .ok (line, rest)
      | [] =>
          match failure with
          | some exception => .error (.httpx exception)
          | none =>
              .error (dataError (utf8 "Streaming response was empty.")
                (some .stopAsyncIteration)) := by
  induction lines with
  | nil => rfl
  | cons line rest ih =>
      by_cases blank : pythonStrip (characters line) = []
      · rw [readMetadataLine, if_pos blank, ih, List.dropWhile_cons_of_pos (by
          simp [isBlankLine, blank])]
      · rw [readMetadataLine, if_neg blank, List.dropWhile_cons_of_neg (by
          simp [isBlankLine, blank])]

theorem readOpening_stream_leads {response : HttpResponse} (success : response.isSuccess = true) :
    Leads (response.lines.dropWhile isBlankLine).tail response.failure
      (streamReport library response) (converted (readOpening python library response)) := by
  rw [readOpening, if_pos success, readMetadataLine_eq, streamReport]
  cases response.lines.dropWhile isBlankLine with
  | nil =>
      cases response.failure with
      | some exception => exact leads_exception exception
      | none => exact leads_dataError _ (some .stopAsyncIteration) (by simp)
  | cons line rest =>
      simp only [bind, Except.bind, loadsLine, List.tail_cons]
      cases library.loads line with
      | ok metaData => exact openStream_leads metaData
      | error exception =>
          cases exception with
          | jsonDecodeError message => exact leads_dataError _ (some .jsonDecodeError) (by simp)
          | _ => exact .builtin

theorem statusException_of_refused {response : HttpResponse} {refused : StatusError}
    (parsed : parseHttpStatusError library response = .ok refused)
    (number : isInt refused.code = true) :
    Leads lines failure (codeReport library refused.code refused.retryAfter)
      (converted (.error (statusException library response))) := by
  obtain ⟨error, built, cause, cls⟩ := buildErrorForCode_ok library
    (isHashable_of_isInt number) refused.message .serverError (by simp)
    refused.retryAfter refused.busyContext
  rw [statusException, parsed]
  simp only [built]
  refine leads_surfaced { error with cause := some (.httpStatusError response.status) }
    (fun exception chained => ?_) cls
  cases chained

variable (library) in
/-- No HTTP status is the code of a busy session. -/
theorem codeReport_status (status : Nat) (retryAfter : Option Int) :
    codeReport library (.integer status) retryAfter = .failure := by
  have absent : (errorCodeMap.find? fun entry => library.equals (.integer status) entry.1) =
      none := by
    refine List.find?_eq_none.2 fun entry member => ?_
    have negative : entry.1 < 0 := by
      revert entry
      decide
    simp only [PythonLibrary.equals, beq_iff_eq]
    omega
  simp [codeReport, isBusyCode, errorClass, isHashable, absent]

variable (library) in
/-- The parts of `parse_http_status_error` for a body that was read. -/
theorem parseHttpStatusError_body {response : HttpResponse} {text : Bytes}
    (content : response.content = .ok text) : ∃ refused : StatusError,
    refused.code = .integer response.status ∧
      refused.retryAfter = parseRetryAfter response.header ∧
      parseHttpStatusError library response =
        match library.loadsBytes text with
        | .error (.jsonDecodeError _) | .error .unicodeDecodeError => .ok refused
        | .error exception => .error (.builtin exception)
        | .ok body =>
            let refused := { refused with busyContext := extractBusyContext response.header body }
            match body.member? "error" with
            | some (.object members) =>
                let info := Json.object members
                .ok { refused with
                  message :=
                    match info.member? "message" with
                    | some (.string message) =>
                        if pythonStrip (characters message) = [] then refused.message
                        else utf8 "JVLinkServer error: " ++ message
                    | _ => refused.message
                  code :=
                    match info.member? "code" with
                    | some code => if isInt code then code else refused.code
                    | none => refused.code }
            | _ => .ok refused := by
  unfold parseHttpStatusError
  rw [content]
  by_cases empty : (library.decodeReplacing text).isEmpty = true
  · simp only [empty, if_true]
    exact ⟨_, rfl, rfl, rfl⟩
  · simp only [empty]
    exact ⟨_, rfl, rfl, rfl⟩

theorem statusException_leads (response : HttpResponse) :
    Leads lines failure (statusReport library response)
      (converted (.error (statusException library response))) := by
  have plain {refused : StatusError} (parsed : parseHttpStatusError library response = .ok refused)
      (status : refused.code = .integer response.status) :
      Leads lines failure .failure (converted (.error (statusException library response))) := by
    rw [← codeReport_status library response.status refused.retryAfter, ← status]
    exact statusException_of_refused parsed (by rw [status]; rfl)
  cases content : response.content with
  | error exception =>
      cases stream : exception.isStreamError with
      | true =>
          have report : statusReport library response = .failure := by
            simp [statusReport, content, stream]
          rw [report]
          refine plain (by simp only [parseHttpStatusError, content, stream, if_true]; rfl) rfl
      | false =>
          have report : statusReport library response = exceptionReport exception := by
            simp [statusReport, content, stream]
          have raised : statusException library response = .httpx exception := by
            simp [statusException, parseHttpStatusError, content, stream]
          rw [report, raised]
          exact leads_exception exception
  | ok text =>
      obtain ⟨refused, status, retry, parsed⟩ :=
        parseHttpStatusError_body library content
      cases loaded : library.loadsBytes text with
      | error exception =>
          simp only [loaded] at parsed
          cases exception with
          | jsonDecodeError message =>
              simp only [statusReport, content, loaded]
              exact plain parsed status
          | unicodeDecodeError =>
              simp only [statusReport, content, loaded]
              exact plain parsed status
          | _ =>
              simp only [statusReport, content, loaded, statusException, parsed]
              exact .builtin
      | ok body =>
          simp only [loaded] at parsed
          simp only [statusReport, content, loaded]
          cases error : body.member? "error" with
          | none =>
              simp only [error] at parsed
              exact plain parsed status
          | some info =>
              simp only [error] at parsed
              cases info with
              | object members =>
                  simp only [Json.member?] at parsed
                  cases found : members.lookup (utf8 "code") with
                  | none =>
                      simp only [found] at parsed ⊢
                      exact plain parsed status
                  | some code =>
                      simp only [found] at parsed
                      simp only [found, Option.getD_some]
                      by_cases number : isInt code = true
                      · simp only [number, if_true] at parsed
                        rw [if_pos number, ← retry]
                        exact statusException_of_refused parsed number
                      · simp only [number] at parsed
                        rw [if_neg number]
                        exact plain parsed status
              | _ => exact plain parsed status

end Openings

variable (python library) in
/-- A request that raises has closed its response. -/
theorem fetchAndParseStream_leads (exchange : Exchange) :
    Leads exchange.rest.1 exchange.rest.2 (exchange.report library)
        (fetchAndParseStream python library exchange).1 ∧
      ∀ exception, (fetchAndParseStream python library exchange).1 = .error exception →
        (fetchAndParseStream python library exchange).2.Released := by
  cases exchange with
  | fails exception =>
      refine ⟨leads_exception exception, fun _ _ entered => ?_⟩
      cases entered
  | responds response =>
      have leads : Leads (response.lines.dropWhile isBlankLine).tail response.failure
          ((Exchange.responds response).report library)
          (converted (readOpening python library response)) := by
        unfold Exchange.report
        by_cases success : response.isSuccess = true
        · simp only [success, if_true]
          exact readOpening_stream_leads success
        · simp only [success]
          rw [readOpening, if_neg success]
          exact statusException_leads response
      rw [fetchAndParseStream]
      cases opening : readOpening python library response with
      | ok opened =>
          rw [opening] at leads
          exact ⟨leads, fun _ raised => nomatch raised⟩
      | error exception =>
          rw [opening] at leads
          exact ⟨leads, fun _ _ _ => rfl⟩

/-! ## Attempts -/

variable (python library) in
/-- The iterators of the queries. -/
abbrev rowsOfQuery (excludeDeletions : Bool) (opened : Opened) :
    AsyncIterator (Frame × (Frame × LineStream)) PythonException Json :=
  opened.records python library excludeDeletions

variable (library) in
def Exchange.Busy (exchange : Exchange) : Prop :=
  ∃ retryAfter, exchange.report library = .busy retryAfter

variable (library) in
/-- Every attempt that is made is foreseen, and every wait for the next can be. -/
def AttemptsForeseen (retry : BusyRetry) (server : Nat → Exchange) (first left : Nat) : Prop :=
  ∀ later ≤ left, (∀ earlier < later, (server (first + earlier)).Busy library) →
    (server (first + later)).Foreseen library ∧
      (later < left → ∀ retryAfter,
        (server (first + later)).report library = .busy retryAfter →
          sleepOverflows (retry.delayMs retryAfter) = false)

section Attempts

variable {excludeDeletions : Bool} {retry : BusyRetry} {server : Nat → Exchange}
  {first left : Nat}

/-- An attempt that no other follows. -/
theorem attemptsForeseen_last (last : left = 0 ∨ ¬ (server first).Busy library) :
    AttemptsForeseen library retry server first left ↔ (server first).Foreseen library := by
  constructor
  · intro foreseen
    exact (foreseen 0 (Nat.zero_le _) (fun _ none => absurd none (Nat.not_lt_zero _))).1
  · intro foreseen later within before
    cases later with
    | zero =>
        refine ⟨foreseen, fun less retryAfter busy => ?_⟩
        exact absurd ⟨retryAfter, busy⟩ (last.resolve_left (Nat.ne_of_gt less))
    | succ later =>
        have idle := last.resolve_left (Nat.ne_of_gt (Nat.lt_of_lt_of_le (Nat.succ_pos _) within))
        exact absurd (before 0 (Nat.succ_pos _)) idle

theorem attemptsForeseen_busy {retryAfter : Option Int}
    (busy : (server first).report library = .busy retryAfter) :
    AttemptsForeseen library retry server first (left + 1) ↔
      sleepOverflows (retry.delayMs retryAfter) = false ∧
        AttemptsForeseen library retry server (first + 1) left := by
  have shift (later : Nat) : first + 1 + later = first + (later + 1) := by omega
  have foreseen : (server first).Foreseen library :=
    ⟨by rw [busy]; simp, fun rows => by rw [busy] at rows; cases rows⟩
  constructor
  · intro all
    refine ⟨(all 0 (Nat.zero_le _) (fun _ none => absurd none (Nat.not_lt_zero _))).2
      (Nat.succ_pos _) retryAfter busy, fun later within before => ?_⟩
    have reached : ∀ earlier < later + 1, (server (first + earlier)).Busy library := by
      intro earlier less
      cases earlier with
      | zero => exact ⟨retryAfter, busy⟩
      | succ earlier =>
          rw [← shift]
          exact before earlier (Nat.lt_of_succ_lt_succ less)
    obtain ⟨here, waits⟩ := all (later + 1) (Nat.succ_le_succ within) reached
    rw [shift]
    exact ⟨here, fun less => waits (Nat.succ_lt_succ less)⟩
  · intro ⟨waits, rest⟩ later within before
    cases later with
    | zero =>
        refine ⟨foreseen, fun _ other reported => ?_⟩
        have same : Report.busy retryAfter = .busy other := busy.symm.trans reported
        cases same
        exact waits
    | succ later =>
        have reached : ∀ earlier < later, (server (first + 1 + earlier)).Busy library := by
          intro earlier less
          rw [shift]
          exact before (earlier + 1) (Nat.succ_lt_succ less)
        obtain ⟨here, waits⟩ := rest later (Nat.le_of_succ_le_succ within) reached
        rw [shift] at here waits
        exact ⟨here, fun less => waits (Nat.lt_of_succ_lt_succ less)⟩

theorem Opened.answer_noData {opened : Opened} (noData : opened.noData = true) :
    (opened.answer python library).failure = none := by
  rw [Opened.answer, if_pos noData]

theorem Opened.answer_rows {opened : Opened} (reads : opened.noData = false) :
    (opened.answer python library).failure =
      (rowsOf python library opened.failure opened.lines).2 := by
  rw [Opened.answer, if_neg (by simp [reads])]

theorem failuresSurface_raised {exception : PythonException} {responses : List ResponseState}
    (released : ∀ response ∈ responses, response.Released) :
    FailuresSurface (rowsOfQuery python library excludeDeletions) (.error exception, responses) ↔
      exception.Surfaces :=
  ⟨fun surface => (surface.raised exception rfl).1, fun surfaces =>
    { raised := fun other same => by
        cases same
        exact ⟨surfaces, released⟩
      iterated := fun _ opened => nomatch opened }⟩

theorem failuresSurface_opened {opened : Opened} {responses : List ResponseState} :
    FailuresSurface (rowsOfQuery python library excludeDeletions) (.ok opened, responses) ↔
      ∀ exception, (opened.answer python library).failure = some exception →
        exception.Surfaces := by
  rw [← Opened.records_surface_iff excludeDeletions]
  exact
    ⟨fun surface => surface.iterated opened rfl, fun surface =>
      { raised := fun _ raised => nomatch raised
        iterated := fun other same => by
          cases same
          exact surface }⟩

theorem failuresSurface_after {outcome : Except PythonException Opened}
    {response : ResponseState} {responses : List ResponseState} (released : response.Released) :
    FailuresSurface (rowsOfQuery python library excludeDeletions)
        (outcome, response :: responses) ↔
      FailuresSurface (rowsOfQuery python library excludeDeletions) (outcome, responses) := by
  constructor
  · intro surface
    exact
      { raised := fun exception raised =>
          (surface.raised exception raised).imp_right fun all other member =>
            all other (.tail _ member)
        iterated := surface.iterated }
  · intro surface
    exact
      { raised := fun exception raised =>
          (surface.raised exception raised).imp_right fun all other member => by
            cases member with
            | head => exact released
            | tail _ member => exact all other member
        iterated := surface.iterated }

variable (retry left first) in
/-- What the loop does with an attempt that no other follows. -/
theorem callWithBusyRetry_last (call : Nat → Except PythonException Opened × ResponseState)
    (last : left = 0 ∨
      ∀ error, (call first).1 = .error (.jvLink error) → error.cls ≠ .busyError) :
    callWithBusyRetry retry call left first = ((call first).1, [(call first).2]) := by
  unfold callWithBusyRetry
  cases called : call first with
  | mk outcome response =>
      rw [called] at last
      cases outcome with
      | ok opened => rfl
      | error exception =>
          cases exception with
          | jvLink error =>
              cases left with
              | zero => rfl
              | succ left => simp [last.resolve_left (Nat.succ_ne_zero left) error rfl]
          | _ => rfl

/-- The last attempt. -/
theorem attempt_surface_iff (last : left = 0 ∨ ¬ (server first).Busy library) :
    FailuresSurface (rowsOfQuery python library excludeDeletions)
        (callWithBusyRetry retry (fetchAndParseStream python library ∘ server) left first) ↔
      AttemptsForeseen library retry server first left := by
  obtain ⟨leads, released⟩ :=
    fetchAndParseStream_leads python library (server first)
  have idle (error : JVLinkError)
      (raised : (fetchAndParseStream python library (server first)).1 = .error (.jvLink error))
      (busy : error.cls = .busyError) : (server first).Busy library := by
    rw [raised] at leads
    generalize reported : (server first).report library = report at leads
    cases leads with
    | failure _ other => exact absurd busy other
    | busy => exact ⟨_, reported⟩
  have called := callWithBusyRetry_last retry first left
    (fetchAndParseStream python library ∘ server)
    (last.imp_right fun quiet error raised busy => quiet (idle error raised busy))
  rw [called, attemptsForeseen_last last, Function.comp_apply]
  generalize fetchAndParseStream python library (server first) = fetched at leads released
  obtain ⟨outcome, response⟩ := fetched
  have alone (exception : PythonException) (raised : outcome = .error exception) :
      ∀ other ∈ [response], other.Released := by
    intro other member
    rw [List.mem_singleton.1 member]
    exact released exception raised
  generalize reported : (server first).report library = report at leads
  have opening (expected : report ≠ .unforeseen) (early : report ≠ .rows) :
      (server first).Foreseen library :=
    ⟨by rw [reported]; exact expected, fun rows => absurd (reported.symm.trans rows) early⟩
  have leaks (unforeseen : report = .unforeseen) : ¬ (server first).Foreseen library :=
    fun foreseen => foreseen.opening (reported.trans unforeseen)
  cases leads with
  | httpx => simp [failuresSurface_raised (alone _ rfl), PythonException.Surfaces, leaks]
  | builtin => simp [failuresSurface_raised (alone _ rfl), PythonException.Surfaces, leaks]
  | failure surfaces other =>
      simp only [failuresSurface_raised (alone _ rfl), surfaces, opening (by simp) (by simp)]
  | busy surfaces other =>
      simp only [failuresSurface_raised (alone _ rfl), surfaces, opening (by simp) (by simp)]
  | noData noData =>
      simp [failuresSurface_opened, Opened.answer_noData noData, opening]
  | rows reads same ends =>
      rw [failuresSurface_opened, Opened.answer_rows reads, rowsOf_surface_iff, same, ends]
      exact ⟨fun rows => ⟨by rw [reported]; simp, fun _ => rows⟩, fun foreseen =>
        foreseen.rows reported⟩

theorem callWithBusyRetry_surface_iff :
    FailuresSurface (rowsOfQuery python library excludeDeletions)
        (callWithBusyRetry retry (fetchAndParseStream python library ∘ server) left first) ↔
      AttemptsForeseen library retry server first left := by
  induction left generalizing first with
  | zero => exact attempt_surface_iff (.inl rfl)
  | succ left ih =>
      by_cases busy : (server first).Busy library
      · obtain ⟨retryAfter, reported⟩ := busy
        obtain ⟨leads, released⟩ :=
          fetchAndParseStream_leads python library (server first)
        rw [attemptsForeseen_busy reported]
        rw [reported] at leads
        cases fetched : fetchAndParseStream python library (server first) with
        | mk outcome response =>
            rw [fetched] at leads released
            cases leads with
            | busy surfaces cls =>
                have closed : response.Released := released _ rfl
                rw [callWithBusyRetry, Function.comp_apply, fetched]
                simp only [cls, if_true]
                cases sleeps : sleepOverflows (retry.delayMs _) with
                | true =>
                    simp only [if_true]
                    rw [failuresSurface_raised (by simpa using closed)]
                    simp [PythonException.Surfaces]
                | false =>
                    simp only [Bool.false_eq_true, if_false, true_and]
                    exact (failuresSurface_after closed).trans ih
      · exact attempt_surface_iff (.inr busy)

theorem request_surface_iff (started : Bool) :
    FailuresSurface (rowsOfQuery python library excludeDeletions)
        (request python library started retry server) ↔
      (started = true → AttemptsForeseen library retry server 0 retry.extra) := by
  cases started with
  | true => simpa [request] using callWithBusyRetry_surface_iff
  | false =>
      simp only [request, Bool.false_eq_true, if_false, false_implies, iff_true]
      rw [failuresSurface_raised (by simp)]
      exact surfaces_of_no_cause rfl

end Attempts

end Lines

/-- Every failure of a query surfaces exactly when everything in the exchanges it makes
is foreseen. -/
theorem failures_surface_iff (python : PythonStr) (library : PythonLibrary) (started : Bool)
    (retry : BusyRetry) (files : FileRetry) (server : Server) (stored : StoredRequest)
    (dataspec key : String) :
    (FailuresSurface (rowsOfQuery python library stored.excludeDeletions)
        (queryStored python library started retry files server stored) ↔
      (started = true → AttemptsForeseen library retry
        (server "/query/stored" (storedPayload files stored)) 0 retry.extra)) ∧
    (FailuresSurface (rowsOfQuery python library false)
        (queryRealtime python library started retry server dataspec key) ↔
      (started = true → AttemptsForeseen library retry
        (server "/query/realtime" (realtimePayload dataspec key)) 0 retry.extra)) :=
  ⟨request_surface_iff started, request_surface_iff started⟩

section Inputs

/-- The metadata comes, and then nothing for too long. -/
def stalledServer : Server := fun _ _ _ =>
  .responds
    { status := 200
      lines := [(Json.record [("meta", .object [])]).render]
      failure := some { kind := .readTimeout } }

end Inputs

theorem stalled_stream_leaks :
    ¬ ∀ (server : Server) (retry : BusyRetry) (files : FileRetry) (stored : StoredRequest),
      FailuresSurface (rowsOfQuery plainText plainLibrary stored.excludeDeletions)
        (queryStored plainText plainLibrary true retry files server stored) := by
  intro surface
  have stalled := surface stalledServer ⟨false, 0, 0, false⟩ ⟨false, 0, 0⟩
    (racesWithoutDeletions.request "RACE" none)
  have foreseen := (request_surface_iff true).1 stalled rfl 0 (Nat.zero_le _)
    (fun _ none => absurd none (Nat.not_lt_zero _))
  have rows := foreseen.1.rows (by decide +kernel)
  have ended : Exchange.rest (stalledServer "" .null 0) = ([], some { kind := .readTimeout }) := by
    decide +kernel
  rw [show stalledServer = fun _ _ _ => stalledServer "" .null 0 from rfl] at rows
  rw [ended, rowsForeseen_nil] at rows
  cases rows

end JVLinkServer.Client
