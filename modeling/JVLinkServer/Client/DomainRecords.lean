import JVLinkServer.Client.RowDecoding

namespace JVLinkServer.Client

open Json JVLinkServer.Records

/-! # Domain records against schemas

A schema gives each field a type.  The attributes of a domain record are the texts that the
schema finds in the bytes, each converted as its type says.
-/

/-! ## What a schema says of a domain record -/

/-- The conversions for a type; a flag is a text or says whether there are sales. -/
def readingsOf : SemanticType → List Reading
  | .str | .durationSsS | .durationMssS | .durationMssSs | .durationSsSs => [.str]
  | .int | .money100yen => [.int]
  | .float => [.float]
  | .dateYyyymmdd => [.date]
  | .timeHhmm => [.time]
  | .flag => [.saleFlag, .str]
  | .arrayInt | .arrayMoney100yen => [.ints]
  | .arrayStr | .arrayDurationSsS => [.strs]
  | .dateMmdd | .datetimeMmddhhmm | .reserved | .arrayFloat | .arrayObject => []

/-- The first rides and the first wins of a jockey have a race key, or they are left out. -/
def isKeyed (type : RecordType) (name : String) : Bool :=
  type == .ks && (name == "first_ride_info" || name == "first_win_info")

/-- The record was made on the day of the announcement. -/
def AnnouncementTime.sameDay (announcement : AnnouncementTime) (date : CalendarDate) : Bool :=
  (date.month : Int) = announcement.month && (date.day : Int) = announcement.day

section Decoded

variable (python : PythonStr) (codePage : Bytes → Option Bytes) (rawData : Bytes)

end Decoded

/-! ## The comparison -/

/-- The attributes of the prologue that are read from one field each. -/
def Prologue.attributes : Prologue → List Attribute
  | header | dated => [.str "data_code", .date "data_creation_date"]
  | announcedMeet =>
      [.str "data_code", .date "data_creation_date", .int "meet_year", .str "racecourse_code",
       .int "meet_round", .int "meet_day"]
  | race | announcedRace =>
      [.str "data_code", .date "data_creation_date", .int "meet_year", .str "racecourse_code",
       .int "meet_round", .int "meet_day", .int "race_number"]

def Attribute.reads (type : RecordType) (field : SchemaField) : Attribute → Bool
  | .field name reading =>
      field.name == name && field.elementFields.isNone &&
        (readingsOf field.semanticType).contains reading
  | .items name required fields =>
      field.name == name && field.semanticType == .arrayObject && field.arrayInfo.isSome &&
        required == (if isKeyed type name then some "race_key" else none) &&
        match field.elementFields with
        | some elements => !elements.isEmpty && elements.all fun element => fields.any fun own =>
            own.1 == element.name && (readingsOf element.semanticType).contains own.2
        | none => false

/-- The types of which a field is lost. -/
def losesFields (type : RecordType) : Bool := type == .h1 || type == .h6 || type == .ck

section Returned

variable {python : PythonStr} {payload : Json} {decoder : Decoder}
  {attributes : List (String × AttributeValue)}

theorem own_attributes (decoded : decoder.decode python payload = .ok attributes) :
    ∀ own ∈ decoder.attributes, ∃ value, own.read python payload = .ok value ∧
      (own.name, value) ∈ attributes := by
  obtain ⟨shared, -, rest⟩ := bind_ok_iff.mp decoded
  obtain ⟨read, each, same⟩ := bind_ok_iff.mp rest
  obtain rfl := Except.ok.inj same
  intro own inside
  obtain ⟨named, member, step⟩ := exists_counterpart (mapM_ok_iff.mp each) inside
  obtain ⟨value, done, same⟩ := bind_ok_iff.mp step
  obtain rfl := Except.ok.inj same
  exact ⟨value, done, List.mem_append_right _ member⟩

/-- The keyword arguments before those of the decoder itself. -/
theorem shared_attributes (decoded : decoder.decode python payload = .ok attributes) :
    ∃ shared, decoder.prologue.decode python payload = .ok shared ∧
      ∀ argument ∈ shared, argument ∈ attributes := by
  obtain ⟨shared, prologue, rest⟩ := bind_ok_iff.mp decoded
  obtain ⟨read, -, same⟩ := bind_ok_iff.mp rest
  obtain rfl := Except.ok.inj same
  exact ⟨shared, prologue, fun argument inside => List.mem_append_left _ inside⟩

/-- The fields of the race are among the attributes. -/
theorem race_attributes (decoded : decoder.decode python payload = .ok attributes)
    (race : decoder.prologue = .race ∨ decoder.prologue = .announcedRace) :
    ∃ context, buildContext python payload = .ok context ∧
      ∀ argument ∈ contextKwargs context, argument ∈ attributes := by
  obtain ⟨shared, done, kept⟩ := shared_attributes decoded
  obtain prologue | prologue := race
  · rw [prologue] at done
    obtain ⟨context, built, same⟩ := bind_ok_iff.mp done
    obtain rfl := Except.ok.inj same
    exact ⟨context, built, kept⟩
  · rw [prologue] at done
    obtain ⟨context, built, rest⟩ := bind_ok_iff.mp done
    obtain ⟨announcementAt, -, same⟩ := bind_ok_iff.mp rest
    obtain rfl := Except.ok.inj same
    exact ⟨context, built, fun argument member => kept _ (List.mem_append_left _ member)⟩

/-- Those of the meet are, too, when there is no race. -/
theorem meet_attributes (decoded : decoder.decode python payload = .ok attributes)
    (met : decoder.prologue ≠ .header ∧ decoder.prologue ≠ .dated) :
    ∃ context, buildContext python payload = .ok context ∧
      ∀ argument ∈ meetKwargs context, argument ∈ attributes := by
  cases prologue : decoder.prologue with
  | header => exact absurd prologue met.1
  | dated => exact absurd prologue met.2
  | race | announcedRace =>
      obtain ⟨context, built, kept⟩ := race_attributes decoded (by simp [prologue])
      exact ⟨context, built, fun argument member => kept _ (List.mem_append_left _ member)⟩
  | announcedMeet =>
      obtain ⟨shared, done, kept⟩ := shared_attributes decoded
      rw [prologue] at done
      obtain ⟨context, built, rest⟩ := bind_ok_iff.mp done
      obtain ⟨announcementAt, -, same⟩ := bind_ok_iff.mp rest
      obtain rfl := Except.ok.inj same
      exact ⟨context, built, fun argument member => kept _ (List.mem_append_left _ member)⟩

theorem prologue_attributes (decoded : decoder.decode python payload = .ok attributes) :
    ∀ own ∈ decoder.prologue.attributes, ∃ value, own.read python payload = .ok value ∧
      (own.name, value) ∈ attributes := by
  obtain ⟨shared, done, kept⟩ := shared_attributes decoded
  suffices found : ∀ own ∈ decoder.prologue.attributes, ∃ value,
      own.read python payload = .ok value ∧ ((own.name, value) ∈ shared ∨
        (own.name, value) ∈ attributes) by
    intro own inside
    obtain ⟨value, read, member⟩ := found own inside
    exact ⟨value, read, member.elim (kept _) id⟩
  cases prologue : decoder.prologue with
  | race | announcedRace =>
      obtain ⟨context, built, all⟩ := race_attributes decoded (by simp [prologue])
      obtain ⟨monthDay, -, same⟩ := bind_ok_iff.mp built
      obtain rfl := Except.ok.inj same
      simp only [contextKwargs, meetKwargs, List.forall_mem_append, List.forall_mem_cons] at all
      simp [Prologue.attributes, Attribute.read, Reading.read, Attribute.name, all]
  | announcedMeet =>
      obtain ⟨context, built, all⟩ := meet_attributes decoded (by simp [prologue])
      obtain ⟨monthDay, -, same⟩ := bind_ok_iff.mp built
      obtain rfl := Except.ok.inj same
      simp only [meetKwargs, List.forall_mem_cons] at all
      simp [Prologue.attributes, Attribute.read, Reading.read, Attribute.name, all]
  | header =>
      rw [prologue] at done
      obtain rfl := Except.ok.inj done
      simp [Prologue.attributes, headerKwargs, Attribute.read, Reading.read, Attribute.name]
  | dated =>
      rw [prologue] at done
      obtain ⟨monthDay, -, same⟩ := bind_ok_iff.mp done
      obtain rfl := Except.ok.inj same
      simp [Prologue.attributes, headerKwargs, Attribute.read, Reading.read, Attribute.name]

end Returned

end JVLinkServer.Client
