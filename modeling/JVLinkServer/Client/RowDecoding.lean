import JVLinkServer.Client.CodePages

namespace JVLinkServer.Client

open Json JVLinkServer.Records Worker

/-! # Rows of the server decode

The fields that a decoder might raise for are too short for that in the rows that the server
makes of records.
-/

/-! ## How wide the fields are -/

/-- A field of the name is one text of no more than so many bytes. -/
def widthAtMost (type : RecordType) (name : String) (width : Nat) : Bool :=
  (statementsOf type).all fun statement =>
    statement.name != name ||
      match statement with
      | .field (.text _ _ size) => size ≤ width
      | _ => false

def entryWidthAtMost (type : RecordType) (list name : String) (width : Nat) : Bool :=
  (statementsOf type).all fun statement =>
    statement.name != list ||
      match statement with
      | .objects _ _ _ _ _ entry => entry.all fun slice =>
          slice.name != name ||
            match slice with
            | .text _ _ size => size ≤ width
            | .array _ _ _ _ => false
      | _ => true

/-- The bytes with which a reading cannot raise. -/
def Reading.safeWidth? : Reading → Option Nat
  | .float => some 300
  | .time => some 4
  | _ => none

def Reading.isSafe (reading : Reading) (atMost : Nat → Bool) : Bool :=
  match reading.safeWidth? with
  | some width => atMost width
  | none => true

def Attribute.isSafe (type : RecordType) : Attribute → Bool
  | field name reading => reading.isSafe (widthAtMost type name)
  | items name _ fields => fields.all fun field =>
      field.2.isSafe (entryWidthAtMost type name field.1)

set_option maxRecDepth 10000 in
theorem widths_safe (type : RecordType) :
    (decoderOf type).attributes.all (Attribute.isSafe type) = true ∧
      widthAtMost type "meet_date" 4 = true ∧
      widthAtMost type "announcement_datetime" 8 = true ∧ widthAtMost type "meet_year" 9 = true := by
  cases type <;> decide +kernel

/-! ## Decoding what the parser emits -/

section Emitted

variable {codePage : Bytes → Option Bytes} (page : CodePage932 codePage) {rawData : Bytes}
  {type : RecordType}

/-- A missing field, or the text of a field that is not too wide. -/
def Within (codePage : Bytes → Option Bytes) (rawData : Bytes) (width : Nat)
    (value : Option Json) : Prop :=
  value = none ∨ ∃ start size, size ≤ width ∧
    value = some (.string (extractAndConvert codePage rawData start size))

variable (codePage rawData) in
theorem member_within {name : String} {width : Nat}
    (narrow : widthAtMost type name width = true) :
    Within codePage rawData width
      ((Json.record (emitFields codePage rawData (statementsOf type))).member? name) := by
  by_cases emitted : name ∈ (statementsOf type).map Statement.name
  · obtain ⟨statement, inside, rfl⟩ := List.mem_map.mp emitted
    have own := List.all_eq_true.mp narrow statement inside
    rw [member?_emitFields (statements_distinct type) inside]
    simp only [bne_self_eq_false, Bool.false_or] at own
    cases statement with
    | field slice =>
        cases slice with
        | text name start size => exact .inr ⟨0 + start, size, by simpa using own, rfl⟩
        | array => cases own
    | objects => cases own
  · left
    apply member?_record_none
    rwa [emitFields_names]

theorem entry_within {list name : String} {width : Nat}
    (narrow : entryWidthAtMost type list name width = true) {row : Json}
    (member : row ∈ (toList
      ((Json.record (emitFields codePage rawData (statementsOf type))).member? list)).map
        fun item => toDict (some item)) :
    Within codePage rawData width (row.member? name) := by
  by_cases emitted : list ∈ (statementsOf type).map Statement.name
  · obtain ⟨statement, inside, rfl⟩ := List.mem_map.mp emitted
    have own := List.all_eq_true.mp narrow statement inside
    rw [member?_emitFields (statements_distinct type) inside] at member
    simp only [bne_self_eq_false, Bool.false_or] at own
    obtain ⟨item, listed, rfl⟩ := List.mem_map.mp member
    cases statement with
    | field slice =>
        cases slice with
        | text => cases listed
        | array =>
            obtain ⟨i, -, rfl⟩ := List.mem_map.mp listed
            exact .inl rfl
    | objects list start stride count skip entry =>
        obtain ⟨basePos, -, rfl⟩ := List.mem_map.mp listed
        change Within _ _ _ ((Json.record (emitEntry codePage rawData entry basePos)).member? name)
        by_cases known : name ∈ entry.map Slice.name
        · obtain ⟨slice, among, rfl⟩ := List.mem_map.mp known
          have distinct := entries_distinct type _ inside
          have sliced := List.all_eq_true.mp own slice among
          rw [member?_emitEntry distinct among]
          simp only [bne_self_eq_false, Bool.false_or] at sliced
          cases slice with
          | text name start size => exact .inr ⟨basePos + start, size, by simpa using sliced, rfl⟩
          | array => cases sliced
        · left
          apply member?_record_none
          rwa [emitEntry_names]
  · rw [member?_record_none (by rwa [emitFields_names])] at member
    cases member

include page

theorem not_misread_within (python : PythonStr) {count : Nat} {value : Option Json}
    (within : Within codePage rawData count value) : ¬ Misread count (toText python value) := by
  obtain rfl | ⟨start, size, fits, rfl⟩ := within
  · exact not_misread_none count
  · exact not_misread page rawData start size python fits

theorem toInt?_within {python : PythonStr} {width : Nat} {value : Option Json} {number : Int}
    (within : Within codePage rawData width value) (read : toInt? python value = some number) :
    number.natAbs < 10 ^ width := by
  obtain rfl | ⟨start, size, fits, rfl⟩ := within
  · cases read
  · rw [toInt?_eq] at read
    obtain ⟨text, is, parsed⟩ := Option.bind_eq_some_iff.mp read
    have short := (pythonStrip_sublist
      (characters (extractAndConvert codePage rawData start size))).length_le
    rw [← toText_string_some is] at short
    have chars := length_characters_extract page rawData start size
    exact (pythonInt?_lt parsed).trans_le
      (Nat.pow_le_pow_right (by decide) ((short.trans chars).trans fits))

theorem reading_safe (python : PythonStr) {value : Option Json} {reading : Reading}
    {atMost : Nat → Bool} (safe : reading.isSafe atMost = true)
    (within : ∀ width, atMost width = true → Within codePage rawData width value) :
    ¬ reading.Raises python value := by
  cases reading with
  | float =>
      rintro ⟨number, read, large⟩
      have small := toInt?_within page (within 300 safe) read
      have limit : (10 ^ 3) ^ 100 ≤ (2 ^ 10) ^ 100 := Nat.pow_le_pow_left (by decide) 100
      rw [← Nat.pow_mul, ← Nat.pow_mul] at limit
      unfold floatLimit at large
      omega
  | time => exact not_misread_within page python (within 4 safe)
  | _ => exact id

/-- The decoder of the type does not raise for the fields that the parser sets. -/
theorem emitted_safe (python : PythonStr) :
    ¬ (decoderOf type).Raises python (.record (emitFields codePage rawData (statementsOf type))) := by
  obtain ⟨safe, dated, announced, years⟩ := widths_safe type
  have misdated := not_misread_within page python (member_within codePage rawData dated)
  have announcement := not_misread_within page python (member_within codePage rawData announced)
  have years : ¬ YearOverflows python
      (.record (emitFields codePage rawData (statementsOf type))) := by
    rintro ⟨-, -, -, year, read, outside⟩
    have small := toInt?_within page (member_within codePage rawData years) read
    omega
  rintro (shared | ⟨own, inside, raises⟩)
  · unfold Prologue.Raises at shared
    cases prologue : (decoderOf type).prologue with
    | race | dated =>
        rw [prologue] at shared
        exact misdated shared
    | announcedRace | announcedMeet =>
        rw [prologue] at shared
        exact shared.elim misdated fun later => later.elim announcement years
    | header =>
        rw [prologue] at shared
        exact shared
  · have safe := List.all_eq_true.mp safe own inside
    cases own with
    | field name reading =>
        exact reading_safe page python safe
          (fun width narrow => member_within codePage rawData narrow) raises
    | items name required fields =>
        obtain ⟨row, member, -, field, listed, raises⟩ := raises
        have fieldSafe := List.all_eq_true.mp safe field listed
        exact reading_safe page python fieldSafe (fun width narrow => entry_within narrow member)
          raises

end Emitted

/-! ## Rows -/

/-- Nothing raises where there is nothing to read. -/
theorem nothing_safe (python : PythonStr) (decoder : Decoder) :
    ¬ decoder.Raises python (.object []) := by
  have parts : toMmddhhmmParts python none = .ok none := rfl
  have quiet : ¬ Misread 4 (toText python none) ∧ ¬ Misread 8 (toText python none) :=
    ⟨not_misread_none 4, not_misread_none 8⟩
  have years : ¬ YearOverflows python (.object []) := by
    rintro ⟨announcement, parsed, -⟩
    cases parsed.symm.trans parts
  rintro (shared | ⟨own, -, raises⟩)
  · unfold Prologue.Raises at shared
    cases prologue : decoder.prologue with
    | race | dated =>
        rw [prologue] at shared
        exact quiet.1 shared
    | announcedRace | announcedMeet =>
        rw [prologue] at shared
        exact shared.elim quiet.1 fun later => later.elim quiet.2 years
    | header =>
        rw [prologue] at shared
        exact shared
  · cases own with
    | field name reading =>
        cases reading with
        | float =>
            obtain ⟨number, read, -⟩ := raises
            cases read
        | time => exact quiet.1 raises
        | _ => exact raises
    | items name required fields =>
        obtain ⟨row, member, -⟩ := raises
        cases member

theorem nothing_decodes (python : PythonStr) (recordType : Option Json) {payload : Option Json}
    (empty : toDict payload = .object []) :
    ¬ Fails ((RecordDecoder.default python).decode python recordType payload) := by
  by_cases listed : ∃ type ∈ RecordType.known,
      normalizeRecordType python recordType = utf8 type.name
  · obtain ⟨type, member, is⟩ := listed
    rw [fails_known (RecordType.known_ne_unknown member) is, empty]
    exact nothing_safe python _
  · rw [decode_unknown fun type member is => listed ⟨type, member, is⟩]
    exact not_fails_ok _

/-- `str.upper` keeps capitals and digits. -/
def KeepsCapitals (python : PythonStr) : Prop :=
  ∀ text : Bytes,
    (text.all fun byte => (65 ≤ byte && byte ≤ 90) || (48 ≤ byte && byte ≤ 57)) = true →
      python.upper text = text

section Rows

variable {python : PythonStr} (capitals : KeepsCapitals python)
include capitals

theorem normalize_name (type : RecordType) :
    normalizeRecordType python (some (.string (utf8 type.name))) = utf8 type.name := by
  have keys : type.name.toList.all isKeyChar = true := by
    cases type <;> decide
  have solid : ∀ char ∈ type.name.toList, isPythonSpace char = false :=
    fun char inside => isPythonSpace_keyChar (List.all_eq_true.mp keys char inside)
  have text : toStr python (some (.string (utf8 type.name))) = some (utf8 type.name) := by
    unfold toStr
    simp only [characters_utf8, pythonStrip_of_solid solid]
    cases type <;> rfl
  have plain : ((utf8 type.name).all fun byte =>
      (65 ≤ byte && byte ≤ 90) || (48 ≤ byte && byte ≤ 57)) = true := by
    cases type <;> decide
  rw [normalizeRecordType, text]
  exact capitals _ plain

end Rows

/-- The record that a row becomes, and its envelope. -/
def decodeRow (python : PythonStr) (includeRaw : Bool) (row : Json) : Converted DomainEnvelope :=
  (RecordDecoder.default python).decodeEnvelope python (toEnvelope python includeRaw row)

section Stored

variable {python : PythonStr} (capitals : KeepsCapitals python)
  {codePage : Bytes → Option Bytes} {record : Bytes} (includeRaw : Bool)

variable (codePage record) in
theorem storedRow_members : (storedRow codePage record).member? "type" =
      some (.string (typeOf codePage record)) ∧
    (storedRow codePage record).member? "data" = some (dataOf codePage record) := by
  rw [storedRow, recordJson_members]
  exact ⟨rfl, rfl⟩

variable (python codePage record) in
theorem toEnvelope_storedRow :
    (toEnvelope python includeRaw (storedRow codePage record)).type =
        normalizeRecordType python (some (.string (typeOf codePage record))) ∧
      (toEnvelope python includeRaw (storedRow codePage record)).record =
        toDict (some (dataOf codePage record)) := by
  obtain ⟨type, data⟩ := storedRow_members codePage record
  have object : (storedRow codePage record).isObject = true := rfl
  simp only [toEnvelope, object, Bool.not_true, Bool.false_eq_true, if_false, type, data, and_self]

variable {type : RecordType}

theorem typeOf_known (is : (parseRecord (parseBasicFields codePage) record).type = type)
    (known : type ≠ .unknown) : typeOf codePage record = utf8 type.name ∧
      dataOf codePage record = .record (emitFields codePage record (statementsOf type)) := by
  refine ⟨?_, structuredData_eq is known⟩
  change resolveRecordTypeForOutput (parseRecord (parseBasicFields codePage) record) = _
  unfold resolveRecordTypeForOutput
  dsimp only
  rw [is, if_pos (utf8_name_ne known)]

include capitals in
/-- The row of a record of a known type goes to the decoder of the type. -/
theorem decodeRow_known (is : (parseRecord (parseBasicFields codePage) record).type = type)
    (known : type ≠ .unknown) :
    decodeRow python includeRaw (storedRow codePage record) = (do
      let attributes ← (decoderOf type).decode python
        (.record (emitFields codePage record (statementsOf type)))
      return {
        type := utf8 type.name
        record := .known (utf8 type.name) attributes
        raw := (toEnvelope python includeRaw (storedRow codePage record)).raw }) := by
  obtain ⟨named, emitted⟩ := typeOf_known is known
  obtain ⟨typed, held⟩ := toEnvelope_storedRow python codePage record includeRaw
  rw [named, normalize_name capitals] at typed
  rw [emitted] at held
  unfold decodeRow RecordDecoder.decodeEnvelope
  dsimp only
  rw [typed, held, normalize_name capitals,
    decode_known known (normalize_name capitals type)]
  unfold Decoder.fn
  simp only [toDict, Json.record, Json.ofMembers, bind_assoc, pure_bind]

variable (codePage record) in
theorem dataOf_unknown (is : (parseRecord (parseBasicFields codePage) record).type = .unknown) :
    dataOf codePage record = .null := by
  change (parseRecord (parseBasicFields codePage) record).structuredData = .null
  exact if_pos is

include capitals in
/-- Whatever is in a record, its row decodes. -/
theorem decodeRow_ok (page : CodePage932 codePage) (record : Bytes) :
    ∃ domain, decodeRow python includeRaw (storedRow codePage record) = .ok domain := by
  rw [← not_fails_iff]
  generalize is : (parseRecord (parseBasicFields codePage) record).type = type
  by_cases known : type = .unknown
  · subst known
    obtain ⟨typed, held⟩ := toEnvelope_storedRow python codePage record includeRaw
    rw [dataOf_unknown codePage record is] at held
    unfold decodeRow RecordDecoder.decodeEnvelope
    dsimp only
    rw [held, fails_bind_pure]
    exact nothing_decodes python _ rfl
  · rw [decodeRow_known capitals includeRaw is known, fails_bind_pure, fails_decode_iff]
    exact emitted_safe page python

end Stored

/-! ## A horse and its withdrawal -/

def paddedName (name : String) (size : Nat) : Bytes :=
  utf8 name ++ List.replicate (size - (utf8 name).length) 32

def nameRecord : Bytes :=
  utf8 "HY7202401062019101234" ++ paddedName "Midwinter" 36 ++
    paddedName "The middle of winter" 64 ++ [13, 10]

/-- Announced on the day on which the record was made, at half past nine. -/
def withdrawalRecord : Bytes :=
  utf8 "AV720240106202401060601011101060930" ++ utf8 "05" ++ paddedName "Midwinter" 36 ++
    utf8 "001" ++ [13, 10]

end JVLinkServer.Client
