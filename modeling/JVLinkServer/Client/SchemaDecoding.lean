import JVLinkServer.Client.DomainRecords

namespace JVLinkServer.Client

open Json JVLinkServer.Records

/-! # Fields that reach the domain

Field by field, from the bytes of a record over the row of the server to the attributes of the
domain record.
-/

section Fields

variable {python : PythonStr} {codePage : Bytes → Option Bytes} {rawData : Bytes}
  {type : RecordType} {field : SchemaField}

/-! ## What the decoder finds -/

/-- The fields of a race that a record of WIN5 has not. -/
def raceNames : List String := ["racecourse_code", "meet_round", "meet_day", "race_number"]

def isAbsent (type : RecordType) (field : SchemaField) : Bool :=
  type == .wf && raceNames.contains field.name

set_option maxRecDepth 10000 in
theorem described (keeps : losesFields type = false)
    (member : field ∈ emittedFields (schemaOf type)) (present : isAbsent type field = false) :
    ∃ statement ∈ statementsOf type, field.describes statement = true := by
  by_cases win5 : type = .wf
  · subst win5
    have table : ((emittedFields (schemaOf .wf)).all fun field => isAbsent .wf field ||
        (statementsOf .wf).any field.describes) = true := by
      decide +kernel
    have own := List.all_eq_true.mp table field member
    rw [present, Bool.false_or] at own
    exact List.any_eq_true.mp own
  · have faithful : drifted type = false := by
      cases type with
      | wf => contradiction
      | h1 | h6 => cases keeps
      | _ => rfl
    have pairs := (List.all₂_eq_true _ _).mp (agrees_of_not_drifted type faithful)
    exact exists_counterpart pairs member

/-- The data of the row of a record. -/
def emitted (codePage : Bytes → Option Bytes) (rawData : Bytes) (type : RecordType) : Json :=
  .record (emitFields codePage rawData (statementsOf type))

section Single

variable {attributes : List (String × AttributeValue)}
  (decoded : (decoderOf type).decode python (emitted codePage rawData type) = .ok attributes)
include decoded

theorem attribute_of_decoder {own : Attribute}
    (inside : own ∈ (decoderOf type).prologue.attributes ++ (decoderOf type).attributes) :
    ∃ value, own.read python (emitted codePage rawData type) = .ok value ∧
      (own.name, value) ∈ attributes := by
  obtain shared | own := List.mem_append.mp inside
  · exact prologue_attributes decoded _ shared
  · exact own_attributes decoded _ own

end Single

/-! ## Lists of items -/

/-- Some entry is in the row, so the row is left out for its key only. -/
theorem skipsRow_of_member {required : Option String} {row value : Json} {name : String}
    (found : row.member? name = some value) :
    skipsRow python required row = match required with
      | none => false
      | some key => (toText python (row.member? key)).isNone := by
  unfold skipsRow
  split
  · cases found
  · rfl

/-- An entry without a race key is left out by the parser already when the key is spaces. -/
def keySkipped : Statement → Bool
  | .field _ => false
  | .objects _ _ _ _ skip entry =>
      skip == .spaces 16 && entry.head? == some (.text "race_key" 0 16)

theorem jockey_skips : ∀ statement ∈ statementsOf .ks,
    if isKeyed .ks statement.name then
      keySkipped statement = true ∧ omissible .ks statement.name = .never
    else statement.skip = omissible .ks statement.name := by
  decide +kernel

theorem skip_keyed (type : RecordType) : ∀ statement ∈ statementsOf type,
    isKeyed type statement.name = true → keySkipped statement = true ∧
      omissible type statement.name = .never := by
  intro statement inside keyed
  by_cases jockey : type = .ks
  · subst jockey
    simpa [keyed] using jockey_skips statement inside
  · simp [isKeyed, jockey] at keyed

theorem toList_emitted (places : List Nat) (entry : List Slice) :
    ((toList (some (.array (places.map fun basePos =>
        .record (emitEntry codePage rawData entry basePos))))).map fun item =>
          toDict (some item)) =
      places.map fun basePos => .record (emitEntry codePage rawData entry basePos) := by
  rw [toList, List.map_map]
  rfl

/-- The names of the arguments with which a record begins. -/
def Prologue.names : Prologue → List String
  | header => ["data_code", "data_creation_date"]
  | dated => ["data_code", "data_creation_date", "meet_month", "meet_day_of_month"]
  | announcedMeet =>
      ["data_code", "data_creation_date", "meet_year", "meet_month", "meet_day_of_month",
       "racecourse_code", "meet_round", "meet_day", "announcement_at"]
  | race =>
      ["data_code", "data_creation_date", "meet_year", "meet_month", "meet_day_of_month",
       "racecourse_code", "meet_round", "meet_day", "race_number", "race_id", "race_id_short"]
  | announcedRace =>
      ["data_code", "data_creation_date", "meet_year", "meet_month", "meet_day_of_month",
       "racecourse_code", "meet_round", "meet_day", "race_number", "race_id", "race_id_short",
       "announcement_at"]

def Decoder.names (decoder : Decoder) : List String :=
  decoder.prologue.names ++ decoder.attributes.map Attribute.name

theorem names_distinct (type : RecordType) : (decoderOf type).names.Nodup := by
  apply nodup_of_codes
  cases type <;> decide +kernel

theorem prologue_names {prologue : Prologue} {payload : Json}
    {shared : List (String × AttributeValue)}
    (decoded : prologue.decode python payload = .ok shared) :
    shared.map Prod.fst = prologue.names := by
  cases prologue with
  | header =>
      obtain rfl := Except.ok.inj decoded
      rfl
  | race | dated =>
      obtain ⟨context, -, same⟩ := bind_ok_iff.mp decoded
      obtain rfl := Except.ok.inj same
      rfl
  | announcedRace | announcedMeet =>
      obtain ⟨context, -, rest⟩ := bind_ok_iff.mp decoded
      obtain ⟨moment, -, same⟩ := bind_ok_iff.mp rest
      obtain rfl := Except.ok.inj same
      rfl

theorem attribute_names {decoder : Decoder} {payload : Json}
    {attributes : List (String × AttributeValue)}
    (decoded : decoder.decode python payload = .ok attributes) :
    attributes.map Prod.fst = decoder.names := by
  obtain ⟨shared, prologue, rest⟩ := bind_ok_iff.mp decoded
  obtain ⟨own, each, same⟩ := bind_ok_iff.mp rest
  obtain rfl := Except.ok.inj same
  rw [List.map_append, prologue_names prologue]
  apply congrArg (decoder.prologue.names ++ ·)
  apply mapM_ok_map _ each
  intro listed argument step
  obtain ⟨value, -, same⟩ := bind_ok_iff.mp step
  obtain rfl := Except.ok.inj same
  rfl

section Lost

variable {attributes : List (String × AttributeValue)}
  (decoded : (decoderOf type).decode python (emitted codePage rawData type) = .ok attributes)
include decoded

theorem attribute_unique {name : String} {value other : AttributeValue}
    (member : (name, value) ∈ attributes) (again : (name, other) ∈ attributes) : value = other := by
  have distinct := names_distinct type
  rw [← attribute_names decoded] at distinct
  exact (Prod.mk.inj (List.inj_on_of_nodup_map distinct member again rfl)).2

/-- An attribute has the value that is read for it and no other. -/
theorem attribute_mem_iff {own : Attribute} {value : AttributeValue}
    (inside : own ∈ (decoderOf type).prologue.attributes ++ (decoderOf type).attributes) :
    (own.name, value) ∈ attributes ↔
      own.read python (emitted codePage rawData type) = .ok value := by
  obtain ⟨only, read, member⟩ := attribute_of_decoder decoded inside
  constructor
  · intro other
    rw [← attribute_unique decoded member other]
    exact read
  · intro again
    obtain rfl := Except.ok.inj (read.symm.trans again)
    exact member

end Lost

end Fields

section Records

variable {python : PythonStr} (capitals : KeepsCapitals python)
  {codePage : Bytes → Option Bytes} (page : CodePage932 codePage) (includeRaw : Bool)
include capitals page

/-- The row of a record of a known type becomes the record that its decoder returns. -/
theorem decodeRow_attributes {rawData : Bytes} {type : RecordType}
    (is : (parseRecord (parseBasicFields codePage) rawData).type = type) (known : type ≠ .unknown) :
    ∃ raw attributes,
      (decoderOf type).decode python (emitted codePage rawData type) = .ok attributes ∧
      decodeRow python includeRaw (storedRow codePage rawData) =
        .ok { type := utf8 type.name, record := .known (utf8 type.name) attributes, raw } := by
  have calm : ¬ Fails ((decoderOf type).decode python (emitted codePage rawData type)) := by
    rw [fails_decode_iff]
    exact emitted_safe page python
  obtain ⟨attributes, decoded⟩ := not_fails_iff.mp calm
  refine ⟨(toEnvelope python includeRaw (storedRow codePage rawData)).raw, attributes, decoded, ?_⟩
  rw [decodeRow_known capitals includeRaw is known]
  change ((decoderOf type).decode python (emitted codePage rawData type) >>= _) = _
  rw [decoded]
  rfl

end Records

/-! ## A horse, its withdrawal and its counts -/

end JVLinkServer.Client
