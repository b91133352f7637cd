import Mathlib

namespace JVLinkServer.Core

/-! # JV-Link return codes

The same value means different things to different methods: `-1` is no data to
`JVOpen` and a change of file to `JVGets`.
-/

def jvSuccess : Int := 0
def jvErrorNoData : Int := -1
def jvErrorFileSwitching : Int := -1
def jvErrorDownloadInProgress : Int := -3
def jvErrorParamFilepathInvalid : Int := -118
def jvErrorNotInitialized : Int := -201
def jvErrorFileCorruptedHeader : Int := -402
def jvErrorFileCorruptedRacing : Int := -403
def jvErrorDownloadFailed : Int := -502

def isJVGetsEOF (code : Int) : Bool := code == jvSuccess
def isJVGetsFileSwitching (code : Int) : Bool := code == jvErrorFileSwitching
def isJVGetsDownloadInProgress (code : Int) : Bool := code == jvErrorDownloadInProgress

/-- The test of `jvGetsWithRetry` for a damaged file. -/
def isFileCorrupted (code : Int) : Bool :=
  code == jvErrorFileCorruptedHeader || code == jvErrorFileCorruptedRacing

def getErrorMessage (errorCode : Int) : String :=
  match errorCode with
  | 0 => "Success"
  | -1 => "No data available"
  | -2 => "Invalid request"
  | -3 => "Download in progress"
  | -101 => "Software ID (SID) is not set"
  | -102 => "Software ID (SID) exceeds 64 bytes"
  | -103 => "Software ID (SID) is invalid (starts with space)"
  | -100 => "Invalid parameter or registry save failed"
  | -111 => "Invalid dataspec parameter"
  | -112 => "Invalid parameter"
  | -113 => "Invalid fromtime end time"
  | -114 => "Invalid key parameter"
  | -115 => "Invalid option parameter (out of range)"
  | -116 => "Invalid number of dataspec specifications"
  | -118 => "Invalid filepath parameter"
  | -201 => "JVInit has not been called"
  | -202 => "Previous JVOpen is still active (JVClose required)"
  | -203 => "JVOpen has not been called"
  | -211 => "Invalid registry contents"
  | -301 => "Authentication failed"
  | -302 => "Service key has expired"
  | -303 => "Service key is not set"
  | -304 => "Racing Viewer authorization error"
  | -305 => "Terms of service not agreed to"
  | -401 => "JV-Link internal error"
  | -402 => "Download file header is corrupted"
  | -403 => "Download file racing information is corrupted"
  | -411 => "Server error (HTTP 404)"
  | -412 => "Server error (HTTP 403)"
  | -413 => "Server error (other HTTP status)"
  | -421 => "Server response is invalid"
  | -431 => "Server application internal error"
  | -501 => "Invalid start kit for setup"
  | -502 => "Download failed (communication or disk error)"
  | -503 => "File not found"
  | -504 => "Server is under maintenance"
  | other => "Unknown error code: " ++ toString other

end JVLinkServer.Core
