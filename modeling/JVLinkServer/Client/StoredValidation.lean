import JVLinkServer.Client.Dataspecs
import JVLinkServer.Client.DatetimeArguments

namespace JVLinkServer.Client

/-! # The validation of a stored query

`validate_stored_query_input` and the functions below it.  What is refused is refused with
the class of the exception and its message.
-/

/-- `str.upper`, which may map one character beyond ASCII to several. -/
structure StrUpper where
  upper : Char → List Char
  ascii : ∀ char : Char, char.toNat < 128 → upper char = [char.toUpper]

/-- `text.strip().upper()` -/
def StrUpper.clean (python : StrUpper) (text : List Char) : List Char :=
  (pythonStrip text).flatMap python.upper

structure ArgumentError where
  kind : ErrorClass
  message : String
  deriving DecidableEq

abbrev Validated (α : Type) := Except ArgumentError α

/-- What two steps in a row return. -/
theorem validated_bind {α β : Type} {step : Validated α} {next : α → Validated β} {result : β}
    (returned : step >>= next = .ok result) :
    ∃ value, step = .ok value ∧ next value = .ok result := by
  cases step with
  | error error => cases returned
  | ok value => exact ⟨value, rfl, returned⟩

/-- An argument of the type that the function asks for, or of another. -/
inductive Argument (α : Type)
  | value (value : α)
  | other (typeName : String) (truthy : Bool)

inductive DataspecItem
  | spec (spec : JVDataSpec)
  | text (text : String)
  | other

inductive DataspecInput
  | spec (spec : JVDataSpec)
  | text (text : String)
  | sequence (items : List DataspecItem)
  | other

/-- Dataspecs that a query can ask for: no one twice. -/
abbrev DistinctSpecs := { specs : List JVDataSpec // specs.Nodup }

def joined (separator : String) (texts : List String) : String := separator.intercalate texts

/-- `sorted` of a set. -/
def sortedSet (texts : List String) : List String :=
  texts.eraseDups.mergeSort fun first second => decide (first ≤ second)

/-- `list(dict.fromkeys(values))` -/
def fromKeys {α : Type} [DecidableEq α] (values : List α) : List α :=
  values.foldl (fun seen value => if value ∈ seen then seen else seen ++ [value]) []

section Dataspecs

/-- The codes of four characters that make up a text. -/
def chunksOfFour : List Char → List (List Char)
  | first :: second :: third :: fourth :: rest =>
      [first, second, third, fourth] :: chunksOfFour rest
  | _ => []

/-- What the loop over the codes collects. -/
structure ParsedChunks where
  parsed : List JVDataSpec := []
  duplicates : List String := []
  unknown : List String := []
  distinct : parsed.Nodup := by simp

def ParsedChunks.add (chunks : ParsedChunks) (chunk : List Char) : ParsedChunks :=
  match JVDataSpec.ofValue? chunk with
  | none => { chunks with unknown := chunks.unknown ++ [String.ofList chunk] }
  | some spec =>
      if seen : spec ∈ chunks.parsed then
        { chunks with duplicates := chunks.duplicates ++ [spec.value] }
      else
        { chunks with
          parsed := chunks.parsed ++ [spec]
          distinct := List.nodup_append.mpr
            ⟨chunks.distinct, List.nodup_singleton spec, by grind⟩ }

variable (python : StrUpper)

def itemChunk : DataspecItem → Validated (List Char)
  | .spec spec => .ok spec.value.toList
  | .other => .error
      ⟨.invalidDataSpecError, "dataspec sequence must contain only strings or JVDataSpec values."⟩
  | .text item =>
      let cleaned := python.clean item.toList
      if cleaned.isEmpty then
        .error ⟨.invalidDataSpecError, "dataspec sequence must not include empty values."⟩
      else if cleaned.length ≠ 4 then
        .error ⟨.invalidDataSpecError, "Invalid dataspec item: '" ++ item ++
          "'. Sequence items must be single 4-character dataspec codes."⟩
      else .ok cleaned

def dataspecChunks : DataspecInput → Validated (List (List Char))
  | .spec spec => .ok [spec.value.toList]
  | .text dataspec =>
      let normalized := python.clean dataspec.toList
      if normalized.isEmpty then
        .error ⟨.invalidDataSpecError, "dataspec must not be empty."⟩
      else if normalized.length % 4 ≠ 0 then
        .error ⟨.invalidDataSpecError, "Invalid dataspec format: '" ++ dataspec ++
          "'. dataspec must be one or more concatenated 4-character codes."⟩
      else .ok (chunksOfFour normalized)
  | .sequence items =>
      if items.isEmpty then .error ⟨.invalidDataSpecError, "dataspec must not be empty."⟩
      else items.mapM (itemChunk python)
  | .other => .error ⟨.invalidDataSpecError,
      "dataspec must be a string, JVDataSpec, or a sequence of dataspec values."⟩

def parseStoredDataspecsArg (dataspec : DataspecInput) : Validated DistinctSpecs := do
  let chunks := (← dataspecChunks python dataspec).foldl ParsedChunks.add {}
  if !chunks.unknown.isEmpty then
    throw ⟨.invalidDataSpecError, "Unknown dataspec: " ++ joined ", " chunks.unknown ++
      ". Valid values: " ++ joined ", " (JVDataSpec.all.map JVDataSpec.value)⟩
  if !chunks.duplicates.isEmpty then
    throw ⟨.invalidDataSpecError, "Duplicate dataspec is not allowed: " ++
      joined ", " (fromKeys chunks.duplicates) ++ ". Remove duplicates from dataspec."⟩
  return ⟨chunks.parsed, chunks.distinct⟩

end Dataspecs

section RecordTypes

variable (python : StrUpper)

def cleanRecordType : Argument String → Validated String
  | .other _ _ => .error ⟨.invalidParameterError, "record_types must be a list of strings."⟩
  | .value recordType =>
      let cleaned := python.clean recordType.toList
      if cleaned.isEmpty then
        .error ⟨.invalidParameterError, "record_types must not include empty values."⟩
      else .ok (String.ofList cleaned)

def normalizeRecordTypesArg (dataspecs : List JVDataSpec) :
    Option (List (Argument String)) → Validated (Option (List String))
  | none => .ok none
  | some recordTypes => do
      let allowed := dataspecs.flatMap JVDataSpec.records
      let joinedDataspecs := joined "," (dataspecs.map JVDataSpec.value)
      if recordTypes.isEmpty then
        throw ⟨.invalidParameterError, "record_types must not be empty when specified."⟩
      if allowed.isEmpty then
        throw ⟨.invalidParameterError, "No record type mapping is defined for dataspec '" ++
          joinedDataspecs ++ "'."⟩
      let normalized ← recordTypes.mapM (cleanRecordType python)
      let invalid := sortedSet (normalized.filter (!allowed.contains ·))
      if !invalid.isEmpty then
        throw ⟨.invalidParameterError, "Unsupported record_types for dataspec '" ++
          joinedDataspecs ++ "': " ++ joined ", " invalid ++ ". Valid record_types: " ++
          joined ", " (sortedSet allowed)⟩
      return some (fromKeys normalized)

end RecordTypes

/-- The whole of `normalize_datetime_arg`. -/
def datetimeArg (argName : String) (endOfDay : Bool) : Argument String → Validated String
  | .other typeName _ =>
      .error ⟨.invalidFromTimeError, argName ++ " must be a string. Got " ++ typeName ++ "."⟩
  | .value value =>
      match normalizeDatetimeArg argName value.toList endOfDay with
      | .ok normalized => .ok (String.ofList normalized)
      | .error message => .error ⟨.invalidFromTimeError, message⟩

/-- `bool(value)` of an argument that should be a string. -/
def truthy : Argument String → Bool
  | .value value => !value.isEmpty
  | .other _ truthy => truthy

/-- `_OPTION_NAMES` -/
def optionName : Int → String
  | 1 => "accumulated data"
  | 2 => "weekly data"
  | 3 => "setup data"
  | _ => "setup data (no dialog)"

section Query

variable (python : StrUpper)

/-- `normalized_to_date`, given the normalized `from_datetime`. -/
def normalizeToDate (dataspecs : List JVDataSpec) (fromDatetime : String)
    (toDate : Option (Argument String)) : Validated (Option String) :=
  match toDate.filter truthy with
  | none => .ok none
  | some toDate =>
      let unsupported := (dataspecs.map JVDataSpec.value).filter JVDataSpec.noEndDate.contains
      if !unsupported.isEmpty then
        .error ⟨.invalidFromTimeError, "Dataspec '" ++ joined "," unsupported ++
          "' does not support end date specification. " ++
          "These dataspecs only support from_datetime: " ++
          joined ", " (sortedSet JVDataSpec.noEndDate)⟩
      else
        match datetimeArg "to_date" true toDate with
        | .error error => .error error
        | .ok normalized =>
            if normalized < fromDatetime then
              .error ⟨.invalidFromTimeError, "Invalid date range: from_datetime (" ++
                fromDatetime ++ ") must be <= to_date (" ++ normalized ++ ")."⟩
            else .ok (some normalized)

/-- The checks of the dataspecs against the option. -/
def checkDataspecs (dataspecs : List JVDataSpec) (option : Int) : Validated Unit := do
  let realtime := dataspecs.filter JVDataSpec.realtime.contains
  if !realtime.isEmpty then
    throw ⟨.invalidDataSpecError, "Dataspec '" ++ joined "," (realtime.map JVDataSpec.value) ++
      "' is a realtime dataspec and cannot be used with query_stored(). Realtime dataspecs: " ++
      joined ", " (sortedSet (JVDataSpec.realtime.map JVDataSpec.value)) ++
      ". Use query_realtime() instead."⟩
  match JVDataSpec.validByOption option with
  | none => throw ⟨.invalidOptionError,
      "Invalid option: " ++ toString option ++ ". Must be 1, 2, 3, or 4."⟩
  | some valid =>
      let unsupported := dataspecs.filter (!valid.contains ·)
      if !unsupported.isEmpty then
        throw ⟨.invalidOptionError, "Dataspec '" ++
          joined "," (unsupported.map JVDataSpec.value) ++ "' is not supported for " ++
          optionName option ++ " (option=" ++ toString option ++ "). Valid dataspecs: " ++
          joined ", " (sortedSet (valid.map JVDataSpec.value))⟩

def validateStoredQueryInput (dataspec : DataspecInput) (fromDatetime : Argument String)
    (option : Argument Int) (toDate : Option (Argument String))
    (recordTypes : Option (List (Argument String))) : Validated StoredQueryInput := do
  match option with
  | .other typeName _ => throw ⟨.invalidOptionError,
      "option must be an integer 1, 2, 3, or 4. Got " ++ typeName ++ "."⟩
  | .value option =>
      let dataspecs ← parseStoredDataspecsArg python dataspec
      checkDataspecs dataspecs.val option
      let fromNormalized ← datetimeArg "from_datetime" false fromDatetime
      let toNormalized ← normalizeToDate dataspecs.val fromNormalized toDate
      let recordTypes ← normalizeRecordTypesArg python dataspecs.val recordTypes
      return {
        dataspec := joined "" (dataspecs.val.map JVDataSpec.value)
        dataspecs := dataspecs.val.map JVDataSpec.value
        fromDatetime := fromNormalized
        toDate := toNormalized
        recordTypes
        distinct := dataspecs.property.map JVDataSpec.value_injective }

end Query

end JVLinkServer.Client
