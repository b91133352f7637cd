import JVLinkServer.Client.StoredQuery

namespace JVLinkServer.Client

/-! # Exceptions

Those of `httpx` and of the interpreter that can come up while a response is read, and
the client's own.
-/

inductive HttpxKind
  | connectTimeout | readTimeout | writeTimeout | poolTimeout
  | connectError | readError | writeError | closeError
  | localProtocolError | remoteProtocolError
  | proxyError | unsupportedProtocol | decodingError
  | streamConsumed | streamClosed
  deriving DecidableEq, Repr

structure HttpxException where
  kind : HttpxKind
  message : Bytes := []
  deriving DecidableEq

namespace HttpxException

/-- `httpx.TimeoutException` -/
def isTimeout (exception : HttpxException) : Bool :=
  match exception.kind with
  | .connectTimeout | .readTimeout | .writeTimeout | .poolTimeout => true
  | _ => false

/-- `httpx.NetworkError` -/
def isNetworkError (exception : HttpxException) : Bool :=
  match exception.kind with
  | .connectError | .readError | .writeError | .closeError => true
  | _ => false

/-- `httpx.StreamError` -/
def isStreamError (exception : HttpxException) : Bool :=
  match exception.kind with
  | .streamConsumed | .streamClosed => true
  | _ => false

end HttpxException

/-- Exceptions of the interpreter and of its library. -/
inductive BuiltinException
  | typeError | attributeError | overflowError | recursionError | valueError
  | unicodeDecodeError
  | jsonDecodeError (message : Bytes)
  deriving DecidableEq

/-- What the transport asks of the library: `json.loads` of a text and of bytes, the
comparison of a float with an integer, and `decode("utf-8", errors="replace")`. -/
structure PythonLibrary where
  loads : Bytes → Except BuiltinException Json
  loadsBytes : Bytes → Except BuiltinException Json
  floatEquals : Bytes → Int → Bool
  decodeReplacing : Bytes → Bytes

/-- `json.loads` of what the server writes. -/
def plainJson (line : Bytes) : Except BuiltinException Json :=
  match Json.parse line with
  | some value => .ok value
  | none => .error (.jsonDecodeError [])

def plainLibrary : PythonLibrary where
  loads := plainJson
  loadsBytes := plainJson
  floatEquals := fun _ _ => false
  decodeReplacing := id

/-- `value == number` -/
def PythonLibrary.equals (library : PythonLibrary) (value : Json) (number : Int) : Bool :=
  match value with
  | .bool value => (if value then 1 else 0) == number
  | .integer value => value == number
  | .float literal => library.floatEquals literal number
  | _ => false

/-! ## Values in the hands of the interpreter -/

/-- The value is the given string. -/
def isString (key : String) : Json → Bool
  | .string value => value == utf8 key
  | _ => false

/-- `key in value` -/
def contains (key : String) : Json → Except BuiltinException Bool
  | .object members => .ok (members.lookup (utf8 key)).isSome
  | .array items => .ok (items.any (isString key))
  | .string value => .ok (decide (utf8 key <:+: value))
  | _ => .error .typeError

/-- `value[key]` for a key that is in the value. -/
def subscript (key : String) : Json → Except BuiltinException Json
  | .object members => .ok ((members.lookup (utf8 key)).getD .null)
  | _ => .error .typeError

/-- `value.get(key, fallback)` -/
def getMember (key : String) (fallback : Json) : Json → Except BuiltinException Json
  | .object members => .ok ((members.lookup (utf8 key)).getD fallback)
  | _ => .error .attributeError

/-- `isinstance(value, int)` -/
def isInt : Json → Bool
  | .integer _ | .bool _ => true
  | _ => false

def isHashable : Json → Bool
  | .array _ | .object _ => false
  | _ => true

/-! ## The exceptions of the client -/

/-- The classes below `JVLinkError` that are raised. -/
inductive ErrorClass
  | serverError | busyError | unavailableError | openError | authError | fileCorruptedError
  | connectionError | timeoutError
  | dataError | noDataError
  | invalidDataSpecError | invalidOptionError | invalidFromTimeError | invalidKeyError
  | invalidParameterError
  deriving DecidableEq, Repr

/-- What `_extract_busy_context` collects. -/
structure BusyContext where
  operation : Option Bytes := none
  path : Option Bytes := none
  requestId : Option Bytes := none
  startedAt : Option Int := none
  elapsedMs : Option Int := none
  dataspec : Option Bytes := none
  key : Option Bytes := none
  session : Option Json := none

/-- `raise .. from` -/
inductive Cause
  | httpx (exception : HttpxException)
  | httpStatusError (status : Nat)
  | stopAsyncIteration
  | jsonDecodeError

structure JVLinkError where
  cls : ErrorClass
  message : Bytes
  errorCode : Json := .null
  retryAfter : Option Int := none
  busyContext : BusyContext := {}
  cause : Option Cause := none

inductive PythonException
  | jvLink (error : JVLinkError)
  | httpx (exception : HttpxException)
  | builtin (exception : BuiltinException)

/-- `_ERROR_CODE_MAP` -/
def errorCodeMap : List (Int × ErrorClass) :=
  [
    (-1, .noDataError),
    (-202, .busyError),
    (-50301, .unavailableError),
    (-111, .invalidDataSpecError),
    (-112, .invalidParameterError),
    (-113, .invalidFromTimeError),
    (-114, .invalidKeyError),
    (-115, .invalidOptionError),
    (-116, .invalidParameterError),
    (-118, .invalidParameterError),
    (-301, .authError),
    (-302, .authError),
    (-303, .authError),
    (-304, .authError),
    (-305, .authError),
    (-402, .fileCorruptedError),
    (-403, .fileCorruptedError)
  ]

section Codes

variable (library : PythonLibrary)

/-- `_ERROR_CODE_MAP.get(error_code, default_exc)` -/
def errorClass (errorCode : Json) (fallback : ErrorClass) : Except BuiltinException ErrorClass :=
  if isHashable errorCode then
    match errorCodeMap.find? fun entry => library.equals errorCode entry.1 with
    | some entry => .ok entry.2
    | none => .ok fallback
  else .error .typeError

/-- `build_error_for_code`.  A class whose constructor takes no code gets it afterwards. -/
def buildErrorForCode (errorCode : Json) (message : Bytes) (fallback : ErrorClass)
    (retryAfter : Option Int := none) (busyContext : BusyContext := {}) :
    Except BuiltinException JVLinkError := do
  match ← errorClass library errorCode fallback with
  | .busyError => return { cls := .busyError, message, errorCode, retryAfter, busyContext }
  | cls => return { cls, message, errorCode }

/-- `raise_for_error_code` -/
def raiseForErrorCode (errorCode : Json) (message : Bytes) : PythonException :=
  match buildErrorForCode library errorCode message .openError with
  | .ok error => .jvLink error
  | .error exception => .builtin exception

end Codes

end JVLinkServer.Client
