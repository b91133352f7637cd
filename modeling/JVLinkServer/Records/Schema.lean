import JVLinkServer.Records.FieldSlices

namespace JVLinkServer.Records

/-! # Record schemas

A schema says where the fields of a record are.  Positions count from 1, and the offsets of
the fields of an element from 0.
-/

inductive SemanticType
  | str | int | float | dateYyyymmdd | dateMmdd | timeHhmm | datetimeMmddhhmm
  | durationSsS | durationMssS | durationMssSs | durationSsSs | money100yen | flag | reserved
  | arrayInt | arrayStr | arrayFloat | arrayMoney100yen | arrayDurationSsS | arrayObject
  deriving DecidableEq, Repr

inductive WireType
  | string | array
  deriving DecidableEq, Repr

structure ArrayInfo where
  elementSize : Nat
  count : Nat
  deriving DecidableEq, Repr

structure ElementField where
  name : String
  wireType : WireType
  semanticType : SemanticType
  byteOffset : Nat
  byteSize : Nat
  arrayInfo : Option ArrayInfo := none
  deriving DecidableEq, Repr

namespace ElementField

def text (name : String) (semanticType : SemanticType) (byteOffset byteSize : Nat) : ElementField :=
  { name, wireType := .string, semanticType, byteOffset, byteSize }

/-- An array whose elements the schema gives no size of. -/
def unsized (name : String) (semanticType : SemanticType) (byteOffset byteSize : Nat) :
    ElementField :=
  { name, wireType := .array, semanticType, byteOffset, byteSize }

def array (name : String) (semanticType : SemanticType)
    (byteOffset byteSize elementSize count : Nat) : ElementField :=
  { name, wireType := .array, semanticType, byteOffset, byteSize
    arrayInfo := some { elementSize, count } }

/-- An array that the schema calls a string. -/
def stringArray (name : String) (semanticType : SemanticType)
    (byteOffset byteSize elementSize count : Nat) : ElementField :=
  { name, wireType := .string, semanticType, byteOffset, byteSize
    arrayInfo := some { elementSize, count } }

end ElementField

structure SchemaField where
  name : String
  wireType : WireType
  semanticType : SemanticType
  bytePosition : Nat
  byteSize : Nat
  arrayInfo : Option ArrayInfo := none
  elementFields : Option (List ElementField) := none
  deriving DecidableEq, Repr

namespace SchemaField

def text (name : String) (semanticType : SemanticType) (bytePosition byteSize : Nat) :
    SchemaField :=
  { name, wireType := .string, semanticType, bytePosition, byteSize }

def array (name : String) (semanticType : SemanticType)
    (bytePosition byteSize elementSize count : Nat) : SchemaField :=
  { name, wireType := .array, semanticType, bytePosition, byteSize
    arrayInfo := some { elementSize, count } }

def objects (name : String) (bytePosition byteSize elementSize count : Nat)
    (elementFields : List ElementField) : SchemaField :=
  { name, wireType := .array, semanticType := .arrayObject, bytePosition, byteSize
    arrayInfo := some { elementSize, count }
    elementFields := some elementFields }

end SchemaField

/-- The file of common fields that a schema refers to. -/
inductive CommonFields
  | none | header | race
  deriving DecidableEq, Repr

structure RecordSchema where
  recordLength : Nat
  keyFields : List String
  common : CommonFields
  own : List SchemaField

def commonHeaderFields : List SchemaField :=
  [.text "data_code" .str 3 1, .text "data_creation_date" .dateYyyymmdd 4 8]

def commonRaceFields : List SchemaField :=
  [.text "data_code" .str 3 1, .text "data_creation_date" .dateYyyymmdd 4 8,
   .text "meet_year" .int 12 4, .text "meet_date" .dateMmdd 16 4,
   .text "racecourse_code" .str 20 2, .text "meet_round" .int 22 2, .text "meet_day" .int 24 2,
   .text "race_number" .int 26 2]

/-- `resolve_fields` -/
def resolveFields (schema : RecordSchema) : List SchemaField :=
  match schema.common with
  | .none => schema.own
  | .header => commonHeaderFields ++ schema.own
  | .race => commonRaceFields ++ schema.own

end JVLinkServer.Records
