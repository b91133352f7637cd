import JVLinkServer.Core.JVLinkWrapper

namespace JVLinkServer.Core

open Effects

/-! # Stored and real-time queries

Sleeping is left out: the environment moves whenever it is asked.
-/

structure JVQueryResult where
  success : Bool := false
  readCount : Int := 0
  downloadCount : Int := 0
  errorCode : Int := 0
  lastFileTimestamp : String := ""
  errorMessage : String := ""
  deriving DecidableEq, Repr

/-- The callbacks of a query. -/
structure StreamClient (ρ : Type) where
  recordCallback : Bytes → EStateM Exception ρ Unit
  metaCallback : JVQueryResult → EStateM Exception ρ Unit
  cancelRequested : EStateM Exception ρ Bool

/-- Why a query returned.  The source returns nothing. -/
inductive StreamEnd
  | notInitialized
  | openFailed
  | downloadFailed
  | noFiles
  | endOfFiles
  | limitReached
  deriving DecidableEq, Repr

section Reads

variable {κ ρ : Type} (jv : JVLink κ)

/-! ## Reading a record -/

/-- The return code of `jvGets` and the buffers it leaves. -/
structure GetsResult where
  code : Int
  buffer : Option Bytes
  filename : Bytes
  deriving DecidableEq, Repr

def filenameBufferSize : Nat := 256

/-- The copy of the reported name, which must fit with its terminator. -/
def GetsReply.storeFilename (reply : GetsReply) (filename : Bytes) : Bytes :=
  match reply.filename with
  | some reported => if reported.length + 1 ≤ filenameBufferSize then reported else filename
  | none => filename

def GetsReply.code (reply : GetsReply) : Int := reply.result.lVal (-999)

/-- The second half of `jvGets`.  The name is only looked at beside an array of data. -/
def GetsReply.store (reply : GetsReply) (buffer : Option Bytes) (filename : Bytes) : GetsResult :=
  if 0 < reply.code then
    match reply.safeArray with
    | .null => { code := reply.code, buffer, filename }
    | .inaccessible => { code := reply.code, buffer, filename := reply.storeFilename filename }
    | .bytes data =>
        { code := reply.code
          buffer := some (data.take reply.code.toNat)
          filename := reply.storeFilename filename }
  else { code := reply.code, buffer, filename }

@[simp] theorem GetsReply.store_code (reply : GetsReply) (buffer : Option Bytes)
    (filename : Bytes) : (reply.store buffer filename).code = reply.code := by
  unfold GetsReply.store
  split
  · split <;> rfl
  · rfl

/-- `attemptsLeft` only goes on record. -/
def jvGets (attemptsLeft : Nat) (buffer : Option Bytes) (filename : Bytes) :
    Action κ ρ GetsResult := do
  if !(← read).wrapper.dispatch then return { code := -999, buffer, filename }
  let reply ← ask jv.jvGets
  recordFile (.gets attemptsLeft reply)
  return reply.store buffer filename

def performJVFiledelete (filename : Bytes) : Action κ ρ Int := do
  recordFile (.filedelete filename)
  return (← invokeMethod (jv.jvFiledelete (convertUtf8ToBSTR filename))).lVal (-999)

/-- The attempts of `jvGetsWithRetry`.  The last one returns whatever it gets. -/
def jvGetsAttempts : (attemptsLeft : Nat) → (filename : Bytes) → Action κ ρ GetsResult
  | 0, filename => jvGets jv 0 none filename
  | attemptsLeft + 1, filename => do
      let result ← jvGets jv (attemptsLeft + 1) none filename
      if isFileCorrupted result.code then
        let _ ← performJVFiledelete jv result.filename
        jvGetsAttempts attemptsLeft result.filename
      else return result

/-- How many attempts there are after the first one. -/
def RetryConfig.retries (config : RetryConfig) : Nat :=
  if config.autoRetryOnCorruption then (max 1 config.maxRetryAttempts).toNat - 1 else 0

def jvGetsWithRetry (filename : Bytes) : Action κ ρ GetsResult := do
  jvGetsAttempts jv (← read).wrapper.retryConfig.retries filename

def performJVSkip : Action κ ρ Int := do
  return (← invokeMethod jv.jvSkip).lVal (-999)

/-! ## Opening and waiting -/

/-- The time is only read when the call succeeded, the counts in any case. -/
def performJVOpen (dataspec fromtime : Bytes) (option : Int) : Action κ ρ OpenReply := do
  if !(← read).wrapper.dispatch then return { result := .failed }
  let reply ← ask (jv.jvOpen (convertUtf8ToBSTR dataspec) (convertUtf8ToBSTR fromtime) option)
  if reply.result = .failed then return { reply with lastFileTimestamp := "" }
  return reply

def performJVRTOpen (dataspec key : Bytes) : Action κ ρ Int := do
  return (← invokeMethod (jv.jvrtOpen (convertUtf8ToBSTR dataspec) (convertUtf8ToBSTR key))).lVal
    (-999)

def performJVStatus : Action κ ρ Int := do
  if !(← read).wrapper.dispatch then return -999
  return (← invokeMethod jv.jvStatus).long? jvErrorDownloadFailed

def performJVCancel : Action κ ρ Bool := do
  return (← invokeMethod jv.jvCancel) ≠ .failed

end Reads

section Stored

variable {κ ρ : Type} (jv : JVLink κ) (client : StreamClient ρ)

/-- `should_cancel()` -/
def shouldCancel : Action κ ρ Bool := do
  observe
  callBack client.cancelRequested

def throwIfCanceled (message : String) : Action κ ρ Unit := do
  if ← shouldCancel client then EStateM.throw (.jvOperationCanceled message)

def metaCallback (result : JVQueryResult) : Action κ ρ Unit := do
  observe
  callBack (client.metaCallback result)

def recordCallback (record : Bytes) : Action κ ρ Unit := do
  observe
  callBack (client.recordCallback record)

/-- The polls of `waitForDownload`: whether the download is complete, and the last
status code. -/
def waitForDownloadRounds (downloadCount : Int) : (rounds : Nat) → Action κ ρ (Bool × Int)
  | 0 => return (false, jvErrorDownloadFailed)
  | rounds + 1 => do
      if ← shouldCancel client then
        attempt (invokeComCall jv "jv_cancel" (·.controlTimeout) (performJVCancel jv))
        return (false, jvErrorDownloadFailed)
      let status ← invokeComCall jv "jv_status" (·.statusTimeout) (performJVStatus jv)
      if downloadCount ≤ status then return (true, status)
      if status < 0 then return (false, status)
      waitForDownloadRounds downloadCount rounds

def downloadBaseIterations : Nat := 3000
def downloadPerFileIterations : Nat := 60

def waitForDownload (downloadCount : Int) : Action κ ρ (Bool × Int) :=
  waitForDownloadRounds jv client downloadCount
    (downloadBaseIterations + downloadCount.toNat * downloadPerFileIterations)

structure StoredQuery where
  dataspec : Bytes
  fromdate : Bytes
  option : Int
  maxRecords : Int := 0
  filterRecordTypes : List Bytes := []

namespace StoredQuery

/-- A date becomes a time. -/
def fromTime (query : StoredQuery) : Bytes :=
  if query.fromdate.length = 8 then query.fromdate ++ utf8 "000000" else query.fromdate

def openTimeout (query : StoredQuery) (config : TimeoutConfig) : Nat :=
  if query.option = 3 || query.option = 4 then config.setupOpenTimeout else config.openTimeout

/-- Without a limit, the largest `long long`. -/
def effectiveMaxRecords (query : StoredQuery) : Nat :=
  if 0 < query.maxRecords then query.maxRecords.toNat else 2 ^ 63 - 1

def shouldSkip (query : StoredQuery) (record : Bytes) : Bool :=
  !query.filterRecordTypes.isEmpty && 2 ≤ record.length &&
    !query.filterRecordTypes.contains (record.take 2)

end StoredQuery

def maxRetries : Nat := 10000

/-- The variables of the read loop. -/
structure ReadProgress where
  actualRecords : Nat := 0
  retryCount : Nat := 0
  filename : Bytes := []
  deriving DecidableEq, Repr

variable (query : StoredQuery)

/-- A record has been read: pass it on, or leave its file. -/
def deliverRecord (progress : ReadProgress) (record : Bytes) : Action κ ρ (Option ReadProgress) := do
  if query.shouldSkip record then
    let _ ← invokeComCall jv "jv_skip" (·.controlTimeout) (performJVSkip jv)
    return some { progress with retryCount := 0 }
  else
    recordCallback client record
    throwIfCanceled client "Stored stream canceled after record callback"
    return some { progress with retryCount := 0, actualRecords := progress.actualRecords + 1 }

/-- One turn of the read loop; `none` is the break at the end of the files. -/
def readOnce (progress : ReadProgress) : Action κ ρ (Option ReadProgress) := do
  throwIfCanceled client "Stored stream canceled during JVGets loop"
  let result ← invokeComCall jv "jv_gets" (·.streamReadTimeout)
    (jvGetsWithRetry jv progress.filename)
  throwIfCanceled client "Stored stream canceled after JVGets call"
  let progress := { progress with filename := result.filename }
  if 0 < result.code then
    match result.buffer with
    | some record => deliverRecord jv client query progress record
    | none => return some { progress with retryCount := progress.retryCount + 1 }
  else if isJVGetsEOF result.code then return none
  else if isJVGetsDownloadInProgress result.code || isJVGetsFileSwitching result.code then
    return some { progress with retryCount := progress.retryCount + 1 }
  else
    EStateM.throw (.jvStreamRead result.code
      ("jvGets failed: " ++ getErrorMessage result.code ++ " (code: " ++ toString result.code ++
        ") after " ++ toString progress.actualRecords ++ " records"))

def readLoop : (fuel : Nat) → ReadProgress → Action κ ρ StreamEnd
  | 0, _ => EStateM.throw .stillRunning
  | fuel + 1, progress => do
      if progress.actualRecords < query.effectiveMaxRecords && progress.retryCount < maxRetries then
        match ← readOnce jv client query progress with
        | some progress => readLoop fuel progress
        | none => return .endOfFiles
      else if maxRetries ≤ progress.retryCount then
        EStateM.throw (.jvStreamRead jvErrorDownloadFailed
          "jvGets retry limit exceeded (10000) while waiting for file switch/download completion")
      else return .limitReached

/-- From the answer of `JVOpen` to the last record. -/
def streamRecords (fuel : Nat) (reply : OpenReply) : Action κ ρ StreamEnd := do
  throwIfCanceled client "Stored stream canceled before meta callback"
  metaCallback client
    { success := true
      readCount := reply.readCount
      downloadCount := reply.downloadCount
      lastFileTimestamp := reply.lastFileTimestamp }
  if 0 < reply.readCount then readLoop jv client query fuel {} else return .noFiles

/-- The body of `queryStored` under its session guard. -/
def openAndStream (fuel : Nat) : Action κ ρ StreamEnd := do
  let reply ← invokeComCall jv "jv_open" query.openTimeout
    (performJVOpen jv query.dataspec query.fromTime query.option)
  throwIfCanceled client "Stored stream canceled after JVOpen"
  let openResult := reply.result.lVal (-1)
  if openResult < 0 && openResult ≠ jvErrorNoData then
    metaCallback client
      { errorCode := openResult
        errorMessage := "JV-Link API error: " ++ getErrorMessage openResult }
    return .openFailed
  if 0 < reply.downloadCount then
    let (downloadResult, statusCode) ← waitForDownload jv client reply.downloadCount
    throwIfCanceled client "Stored stream canceled during download wait"
    if !downloadResult then
      let errorCode := if statusCode < 0 then statusCode else jvErrorDownloadFailed
      metaCallback client
        { errorCode, errorMessage := "JVStatus failed: " ++ getErrorMessage errorCode }
      return .downloadFailed
    streamRecords jv client query fuel reply
  else streamRecords jv client query fuel reply

def queryStored (fuel : Nat) : Action κ ρ StreamEnd := do
  if !(← read).wrapper.isInitialized then
    metaCallback client { errorMessage := "JVLinkWrapper not initialized" }
    return .notInitialized
  else withSessionGuard jv (openAndStream jv client query fuel)

end Stored

section Realtime

variable {κ ρ : Type} (jv : JVLink κ) (client : StreamClient ρ)

/-- One turn of the loop of `queryRealtime`.  A record without data is an empty one. -/
def readRealtimeOnce (progress : ReadProgress) : Action κ ρ (Option ReadProgress) := do
  throwIfCanceled client "Realtime stream canceled during read loop"
  let result ← invokeComCall jv "jv_gets_realtime" (·.streamReadTimeout)
    (jvGets jv 0 none progress.filename)
  throwIfCanceled client "Realtime stream canceled after JVGets call"
  let progress := { progress with filename := result.filename }
  if 0 < result.code then
    recordCallback client (result.buffer.getD [])
    throwIfCanceled client "Realtime stream canceled after record callback"
    return some { progress with actualRecords := progress.actualRecords + 1 }
  else if isJVGetsEOF result.code then return none
  else if isJVGetsFileSwitching result.code || isJVGetsDownloadInProgress result.code then
    return some progress
  else
    EStateM.throw (.jvStreamRead result.code
      ("jvGets failed with error code: " ++ toString result.code ++ " after " ++
        toString progress.actualRecords ++ " records"))

def readRealtimeLoop : (fuel : Nat) → ReadProgress → Action κ ρ StreamEnd
  | 0, _ => EStateM.throw .stillRunning
  | fuel + 1, progress => do
      match ← readRealtimeOnce jv client progress with
      | some progress => readRealtimeLoop fuel progress
      | none => return .endOfFiles

/-- The open of `queryRealtime` on the calling thread, when there is no COM thread,
goes past the fault check. -/
def openRealtime (dataspec key : Bytes) : Action κ ρ Int := do
  if !(← read).worker.running then performJVRTOpen jv dataspec key
  else invokeComCall jv "jvrt_open" (·.realtimeOpenTimeout) (performJVRTOpen jv dataspec key)

def openAndStreamRealtime (dataspec key : Bytes) (fuel : Nat) : Action κ ρ StreamEnd := do
  let openResult ← openRealtime jv dataspec key
  throwIfCanceled client "Realtime stream canceled after JVRTOpen"
  if openResult = -1 then
    metaCallback client { success := true }
    return .noFiles
  else if openResult ≠ 0 then
    metaCallback client
      { errorCode := openResult
        errorMessage := "JV-Link API error: " ++ getErrorMessage openResult }
    return .openFailed
  else
    throwIfCanceled client "Realtime stream canceled before meta callback"
    metaCallback client { success := true }
    readRealtimeLoop jv client fuel {}

def queryRealtime (dataspec key : Bytes) (fuel : Nat) : Action κ ρ StreamEnd := do
  if !(← read).wrapper.isInitialized then
    metaCallback client { errorMessage := "JVLinkWrapper not initialized" }
    return .notInitialized
  else withSessionGuard jv (openAndStreamRealtime jv client dataspec key fuel)

end Realtime

section Commands

variable {κ ρ : Type} (jv : JVLink κ)

/-! ## Commands -/

/-- A command that goes past `invokeComCall` when there is no COM thread. -/
def invokeCommand (operationName : String) (command : Action κ ρ Int) : Action κ ρ Int := do
  if !(← read).worker.running then command
  else invokeComCall jv operationName (·.controlTimeout) command

/-- The checks every command makes first; `argument?` is the code of the first
argument that fails. -/
def checkedCommand (argument? : Option Int) (command : Action κ ρ Int) : Action κ ρ Int := do
  if !(← read).wrapper.isInitialized then return -201
  match argument? with
  | some code => return code
  | none => command

/-- The code of an argument that must not be empty. -/
def required (argument : Bytes) (code : Int) : Option Int :=
  if argument.isEmpty then some code else none

def skipCurrentFile : Action κ ρ Int :=
  checkedCommand none (invokeCommand jv "jv_skip" (performJVSkip jv))

def deleteFile (filename : Bytes) : Action κ ρ Int :=
  checkedCommand (required filename (-1))
    (invokeCommand jv "jv_file_delete" (performJVFiledelete jv filename))

def fukuFile (pattern filepath : Bytes) : Action κ ρ Int :=
  checkedCommand ((required pattern (-1)).or (required filepath (-1)))
    (invokeCommand jv "jv_fuku_file" do
      return (← invokeMethod (jv.jvFukuFile (convertUtf8ToBSTR pattern)
        (convertUtf8ToBSTR filepath))).lVal (-999))

/-- The image and the explanation that the next two return are left out. -/
def fuku (pattern : Bytes) : Action κ ρ Int :=
  checkedCommand (required pattern (-1))
    (invokeCommand jv "jv_fuku" do
      return (← invokeMethod (jv.jvFuku (convertUtf8ToBSTR pattern))).lVal (-999))

def courseFile (key : Bytes) : Action κ ρ Int :=
  checkedCommand (required key (-114))
    (invokeCommand jv "jv_course_file" do
      return (← invokeMethod (jv.jvCourseFile (convertUtf8ToBSTR key))).lVal (-999))

def courseFile2 (key filepath : Bytes) : Action κ ρ Int :=
  checkedCommand ((required key (-114)).or (required filepath jvErrorParamFilepathInvalid))
    (invokeCommand jv "jv_course_file2" do
      return (← invokeMethod (jv.jvCourseFile2 (convertUtf8ToBSTR key)
        (convertUtf8ToBSTR filepath))).lVal (-999))

def startEventWatch : Action κ ρ Bool := do
  if !(← read).wrapper.dispatch then return false
  let returnCode ← invokeComCall jv "jv_watch_event" (·.controlTimeout) do
    return (← invokeMethod jv.jvWatchEvent).lVal (-999)
  if returnCode = 0 then
    setWrapper fun wrapper => { wrapper with eventWatchActive := true }
    return true
  else return false

def stopEventWatch : Action κ ρ Bool := do
  if !(← read).wrapper.dispatch then return false
  let returnCode ← invokeComCall jv "jv_watch_event_close" (·.controlTimeout) do
    return (← invokeMethod jv.jvWatchEventClose).lVal (-1)
  if returnCode = 0 then
    setWrapper fun wrapper => { wrapper with eventWatchActive := false }
    return true
  else return false

def disconnectEventSink : Action κ ρ Bool := do
  setWrapper fun wrapper => { wrapper with connectionPoint := false }
  return true

/-- The posted task is taken to run at once. -/
def setEventHandler (handler : Bool) : Action κ ρ Unit := do
  setWrapper fun wrapper => { wrapper with eventHandler := handler }
  if (← read).worker.accepts then
    let _ ← if handler then connectEventSink jv else disconnectEventSink

end Commands

end JVLinkServer.Core
