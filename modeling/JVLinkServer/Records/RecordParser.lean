import JVLinkServer.Text
import JVLinkServer.Worker.StoredStream

namespace JVLinkServer.Records

/-! # Records and their types

The first two bytes of a record name its type.  A record of a type that the parser does
not know gets no data.
-/

inductive RecordType
  | unknown
  | jg | ra | rc | se | um | ks | ch | we | wh | hr | h1 | hc | wc | o1 | o2 | o3 | o4 | o5 | o6
  | tk | bt | br | bn | hn | sk | tc | ys | av | jc | dm | tm | wf | cs | cc | h6 | hy | ck | hs
  deriving DecidableEq, Repr

namespace RecordType

/-- `recordTypeToString` -/
def name : RecordType → String
  | unknown => "UNKNOWN"
  | jg => "JG" | ra => "RA" | rc => "RC" | se => "SE" | um => "UM" | ks => "KS" | ch => "CH"
  | we => "WE" | wh => "WH" | hr => "HR" | h1 => "H1" | hc => "HC" | wc => "WC" | o1 => "O1"
  | o2 => "O2" | o3 => "O3" | o4 => "O4" | o5 => "O5" | o6 => "O6" | tk => "TK" | bt => "BT"
  | br => "BR" | bn => "BN" | hn => "HN" | sk => "SK" | tc => "TC" | ys => "YS" | av => "AV"
  | jc => "JC" | dm => "DM" | tm => "TM" | wf => "WF" | cs => "CS" | cc => "CC" | h6 => "H6"
  | hy => "HY" | ck => "CK" | hs => "HS"

/-- The types in the order of the table of `stringToRecordType`. -/
def known : List RecordType :=
  [jg, ra, rc, se, um, ks, ch, we, wh, hr, h1, h6, hy, hc, wc, o1, o2, o3, o4, o5, o6, tk, bt, br,
    bn, hn, sk, tc, ys, av, jc, dm, tm, wf, cs, cc, ck, hs]

end RecordType

def stringToRecordType (id : Bytes) : RecordType :=
  (RecordType.known.find? fun type => utf8 type.name == id).getD .unknown

/-- The fields that a parser sets, in the order in which it sets them. -/
abbrev FieldParser := RecordType → Bytes → List (String × Json)

structure ParsedRecord where
  type : RecordType
  recordTypeId : Bytes
  rawData : Bytes
  structuredData : Json := .null

section Parser

variable (fields : FieldParser)

/-- `RecordParser::parseRecord` -/
def parseRecord (rawData : Bytes) : ParsedRecord :=
  let recordTypeId := if rawData.length < 2 then [] else rawData.take 2
  let type := if rawData.length < 2 then .unknown else stringToRecordType recordTypeId
  { type, recordTypeId, rawData
    structuredData := if type = .unknown then .null else .record (fields type rawData) }

def resolveRecordTypeForOutput (record : ParsedRecord) : Bytes :=
  let mapped := utf8 record.type.name
  if mapped ≠ utf8 "UNKNOWN" then mapped
  else if !record.recordTypeId.isEmpty then record.recordTypeId
  else if 2 ≤ record.rawData.length then record.rawData.take 2
  else mapped

/-- What the record callback makes of a record. -/
def recordRow (rawData : Bytes) : Bytes × Json :=
  let record := parseRecord fields rawData
  (resolveRecordTypeForOutput record, record.structuredData)

end Parser

/-- A row that the worker can stream. -/
structure RecordRow where
  type : Bytes
  data : Json
  known : stringToRecordType type ≠ .unknown → data.isObject = true
  unknown : stringToRecordType type = .unknown → data = .null

namespace RecordRow

def isKnown (row : RecordRow) : Bool := stringToRecordType row.type != .unknown

/-- The row as it is written into the stream. -/
def json (row : RecordRow) : Json := Worker.recordJson row.type row.data

end RecordRow

/-! ## The type of a row -/

theorem RecordType.known_ne_unknown {type : RecordType} (known : type ∈ RecordType.known) :
    type ≠ .unknown := by
  rintro rfl
  exact absurd known (by decide)

theorem stringToRecordType_known {id : Bytes} (known : stringToRecordType id ≠ .unknown) :
    utf8 (stringToRecordType id).name = id := by
  unfold stringToRecordType at known ⊢
  cases found : RecordType.known.find? fun type => utf8 type.name == id with
  | none => simp [found] at known
  | some type => simpa using List.find?_some found

/-- Two bytes of the record, whether their type is known or not. -/
theorem recordRow_type (fields : FieldParser) (rawData : Bytes) :
    (recordRow fields rawData).1 =
      if rawData.length < 2 then utf8 "UNKNOWN" else rawData.take 2 := by
  unfold recordRow parseRecord resolveRecordTypeForOutput
  split
  · simp only [RecordType.name, List.isEmpty_nil]
    simp
    omega
  · have some : rawData.take 2 ≠ [] := by
      intro empty
      rcases List.take_eq_nil_iff.mp empty with two | rfl
      · cases two
      · contradiction
    by_cases known : stringToRecordType (rawData.take 2) = .unknown
    · simp [known, RecordType.name, some]
    · simp [stringToRecordType_known known]

theorem stringToRecordType_unknown : stringToRecordType (utf8 "UNKNOWN") = .unknown := by
  decide +kernel

theorem recordRow_data (fields : FieldParser) (rawData : Bytes) :
    (recordRow fields rawData).2 =
      if stringToRecordType (recordRow fields rawData).1 = .unknown then .null
      else .record (fields (stringToRecordType (recordRow fields rawData).1) rawData) := by
  rw [recordRow_type]
  unfold recordRow parseRecord
  split
  · simp [stringToRecordType_unknown]
  · rfl

/-- The rows of the parser are rows that the worker can stream. -/
def rowOf (fields : FieldParser) (rawData : Bytes) : RecordRow where
  type := (recordRow fields rawData).1
  data := (recordRow fields rawData).2
  known known := by
    rw [recordRow_data, if_neg known]
    rfl
  unknown unknown := by rw [recordRow_data, if_pos unknown]

end JVLinkServer.Records
