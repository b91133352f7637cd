import JVLinkServer.Client.StoredInputs
import JVLinkServer.FixedDigits

namespace JVLinkServer.Client

/-! # The keys of realtime queries

`build_race_key` and `build_race_key_short` make keys of their parts, and
`normalize_realtime_key_arg` checks keys.
-/

structure RaceKeyParts where
  meetYear : Argument Int
  meetMonth : Argument Int
  meetDayOfMonth : Argument Int
  racecourseCode : Argument String
  raceNumber : Argument Int
  meetRound : Option (Argument Int) := none
  meetDay : Option (Argument Int) := none

def invalidKey {α : Type} (message : String) : Validated α := .error ⟨.invalidKeyError, message⟩

section Build

def requireKeyInt (name : String) (value : Argument Int) (minimum maximum : Int) : Validated Int :=
  match value with
  | .other _ _ => invalidKey (name ++ " must be an integer between " ++ toString minimum ++ " and " ++
      toString maximum ++ ".")
  | .value value =>
      if minimum ≤ value ∧ value ≤ maximum then .ok value
      else invalidKey (name ++ " must be between " ++ toString minimum ++ " and " ++
        toString maximum ++ ", got " ++ toString value ++ ".")

variable (python : StrUpper)

def normalizeRacecourseCode : Argument String → Validated (List Char)
  | .other _ _ => invalidKey "racecourse_code must be a 2-character string."
  | .value value =>
      let normalized := python.clean value.toList
      if normalized.length = 2 then .ok normalized
      else invalidKey ("racecourse_code must be 2 characters, got '" ++ value ++ "'.")

def buildRaceKeyShort (parts : RaceKeyParts) : Validated (List Char) := do
  let year ← requireKeyInt "meet_year" parts.meetYear 1 9999
  let month ← requireKeyInt "meet_month" parts.meetMonth 1 12
  let dayOfMonth ← requireKeyInt "meet_day_of_month" parts.meetDayOfMonth 1 31
  let raceNumber ← requireKeyInt "race_number" parts.raceNumber 1 99
  let racecourseCode ← normalizeRacecourseCode python parts.racecourseCode
  if !isRealDate year.toNat month.toNat dayOfMonth.toNat then
    invalidKey ("Invalid race date: " ++ String.ofList (zeroPadded 4 year) ++ "-" ++
      String.ofList (zeroPadded 2 month) ++ "-" ++ String.ofList (zeroPadded 2 dayOfMonth) ++
      ". Expected a real date.")
  else
    return zeroPadded 4 year ++ zeroPadded 2 month ++ zeroPadded 2 dayOfMonth ++ racecourseCode ++
      zeroPadded 2 raceNumber

def buildRaceKey (parts : RaceKeyParts) : Validated (List Char) :=
  match parts.meetRound, parts.meetDay with
  | some meetRound, some meetDay => do
      let shortKey ← buildRaceKeyShort python parts
      let meetRound ← requireKeyInt "meet_round" meetRound 1 99
      let meetDay ← requireKeyInt "meet_day" meetDay 1 99
      let raceNumber ← requireKeyInt "race_number" parts.raceNumber 1 99
      return shortKey.take 10 ++ zeroPadded 2 meetRound ++ zeroPadded 2 meetDay ++
        zeroPadded 2 raceNumber
  | _, _ => invalidKey "meet_round and meet_day are required to build a full race key."

end Build

/-! ## Checking -/

/-- `\d` -/
def isDecimal (char : Char) : Bool := (digitValue? char).isSome

/-- A regular expression of classes of characters, each so many times. -/
abbrev Pattern := List (Nat × (Char → Bool))

def fullmatch : Pattern → List Char → Bool
  | [], text => text.isEmpty
  | (count, accepts) :: rest, text =>
      (text.take count).length == count && (text.take count).all accepts &&
        fullmatch rest (text.drop count)

/-- `_DATE_KEY_RE` -/
def dateKeyPattern : Pattern := [(8, isDecimal)]

/-- `_RACE_KEY_SHORT_RE` -/
def raceKeyShortPattern : Pattern := [(8, isDecimal), (2, isKeyChar), (2, isDecimal)]

/-- `_RACE_KEY_FULL_RE` -/
def raceKeyFullPattern : Pattern := [(8, isDecimal), (2, isKeyChar), (6, isDecimal)]

/-- `_EVENT_KEY_RE` -/
def eventKeyPattern : Pattern :=
  [(2, isKeyChar), (8, isDecimal), (2, isKeyChar), (2, isDecimal), (14, isDecimal)]

/-- `_EVENT_RECORD_TYPES` -/
def eventRecordTypes : List String := ["AV", "CC", "JC", "TC", "WE"]

section Check

variable (key : List Char) (original : String)

def normalizeRealtimeDateKey : Validated (List Char) :=
  if !fullmatch dateKeyPattern key then
    invalidKey ("Invalid key format: '" ++ original ++ "'. Use YYYYMMDD.")
  else if !strptimeDate key then
    invalidKey ("Invalid key date: '" ++ original ++ "'. Expected a real date in YYYYMMDD format.")
  else .ok key

def normalizeRealtimeRaceKey : Validated (List Char) :=
  if !(fullmatch raceKeyShortPattern key || fullmatch raceKeyFullPattern key) then
    invalidKey ("Invalid key format: '" ++ original ++
      "'. Use YYYYMMDDJJRR or YYYYMMDDJJKKHHRR.")
  else if !strptimeDate (key.take 8) then
    invalidKey ("Invalid key date: '" ++ original ++ "'. Expected a real date in YYYYMMDD format.")
  else .ok key

def normalizeRealtimeEventKey : Validated (List Char) :=
  if !fullmatch eventKeyPattern key then
    invalidKey ("Invalid key format: '" ++ original ++ "'. Use TTYYYYMMDDJJRRNNNNNNNNNNNNNN.")
  else if !eventRecordTypes.contains (String.ofList (key.take 2)) then
    invalidKey ("Invalid event key record type: '" ++ original ++
      "'. Use one of the 0B16 event prefixes: " ++ joined ", " (sortedSet eventRecordTypes) ++ ".")
  else if !(strptimeDate ((key.drop 2).take 8) && strptimeDatetime (key.drop (key.length - 14))) then
    invalidKey ("Invalid event key date component: '" ++ original ++
      "'. Expected real YYYYMMDD and YYYYMMDDHHMMSS values.")
  else .ok key

end Check

/-- What a key is given as.  Dates come as `strftime("%Y%m%d")` writes them. -/
inductive RealtimeKeyInput
  | none
  | text (text : String)
  | date (formatted : String)
  | parts (parts : RaceKeyParts)
  | other

section Normalize

variable (python : StrUpper)

def coerceRealtimeKeyInput : RealtimeKeyInput → Validated (Option String)
  | .none => .ok Option.none
  | .text text => .ok (some text)
  | .date formatted => .ok (some formatted)
  | .parts parts =>
      if parts.meetRound.isSome && parts.meetDay.isSome then
        (buildRaceKey python parts).map fun key => some (String.ofList key)
      else (buildRaceKeyShort python parts).map fun key => some (String.ofList key)
  | .other => invalidKey "key must be a string, date, datetime, or RaceKeyParts."

def normalizeRealtimeKeyText (dataspec : JVDataSpec) : Option String → Validated (List Char)
  | none => invalidKey ("key is required for realtime dataspec '" ++ dataspec.value ++ "'.")
  | some key =>
      let normalized := python.clean key.toList
      if normalized.isEmpty then invalidKey "key cannot be empty." else .ok normalized

def normalizeRealtimeKeyArg (dataspec : JVDataSpec) (key : RealtimeKeyInput) :
    Validated (List Char) := do
  let coerced ← coerceRealtimeKeyInput python key
  let original := coerced.getD "None"
  let normalized ← normalizeRealtimeKeyText python dataspec coerced
  if JVDataSpec.realtimeDateOnly.contains dataspec then
    normalizeRealtimeDateKey normalized original
  else if JVDataSpec.realtimeRaceOnly.contains dataspec then
    normalizeRealtimeRaceKey normalized original
  else if JVDataSpec.realtimeDateOrRace.contains dataspec then
    if fullmatch dateKeyPattern normalized then normalizeRealtimeDateKey normalized original
    else normalizeRealtimeRaceKey normalized original
  else if JVDataSpec.realtimeEventOnly.contains dataspec then
    normalizeRealtimeEventKey normalized original
  else
    invalidKey ("Unsupported realtime dataspec for key validation: '" ++ dataspec.value ++ "'.")

def validateRealtimeQueryInput (dataspec : Argument String) (key : RealtimeKeyInput) :
    Validated (String × List Char) := do
  match dataspec with
  | .other _ _ => throw ⟨.invalidDataSpecError, "dataspec must be a string."⟩
  | .value dataspec =>
      let normalized := python.clean dataspec.toList
      if normalized.isEmpty then
        throw ⟨.invalidDataSpecError, "dataspec must not be empty."⟩
      match JVDataSpec.ofValue? normalized with
      | none => throw ⟨.invalidDataSpecError, "Unknown dataspec: '" ++ dataspec ++
          "'. Valid values: " ++ joined ", " (JVDataSpec.all.map JVDataSpec.value)⟩
      | some spec =>
          if !JVDataSpec.realtime.contains spec then
            throw ⟨.invalidDataSpecError, "Dataspec '" ++ dataspec ++
              "' is not a valid realtime dataspec. Valid realtime dataspecs: " ++
              joined ", " (sortedSet (JVDataSpec.realtime.map JVDataSpec.value)) ++
              ". Use query_stored() for stored data."⟩
          return (spec.value, ← normalizeRealtimeKeyArg python spec key)

end Normalize

end JVLinkServer.Client
