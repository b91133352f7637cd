import JVLinkServer.Client.SchemaDecoding

namespace JVLinkServer.Client

open Json JVLinkServer.Records

/-! # The wire between the parser and the decoder

Every key that the decoder reads is one that the parser emits, with a value of the kind that the
decoder expects, unless the schema has no such field.
-/

/-! ## What is kept of a value -/

section Kept

variable (python : PythonStr)

/-- What an attribute keeps of the value that it is read from. -/
inductive Kept : Reading → Json → FieldValue → Prop
  | str {bytes text} (stripped : text.getD [] = pythonStrip (characters bytes))
      (none : text = none ↔ pythonStrip (characters bytes) = []) :
      Kept .str (.string bytes) (.str text)
  | single {reading bytes value} (other : reading ≠ .str ∧ reading ≠ .ints ∧ reading ≠ .strs)
      (read : reading.read python (some (.string bytes)) = .ok value) :
      Kept reading (.string bytes) value
  | ints {items numbers} (each : List.Forall₂ (fun item number => ∃ bytes,
      item = .string bytes ∧ number = (toInt? python (some item)).getD 0) items numbers) :
      Kept .ints (.array items) (.ints numbers)
  | strs {items texts} (each : List.Forall₂ (fun item text => ∃ bytes,
      item = .string bytes ∧ text = pythonStrip (characters bytes)) items texts) :
      Kept .strs (.array items) (.strs texts)

/-- An object with the keys of the fields, and the item that has each of them. -/
def RowKept (fields : List Field) (row : Json) (item : Item) : Prop :=
  OnlyMembers (fields.map Prod.fst) row ∧
    List.Forall₂ (fun field entry => entry.1 = field.1 ∧
      ∃ value, row.member? field.1 = some value ∧ Kept python field.2 value entry.2) fields item

inductive AttributeKept : Attribute → Json → AttributeValue → Prop
  | field {name reading value decoded} (kept : Kept python reading value decoded) :
      AttributeKept (.field name reading) value (.field decoded)
  | items {name required fields rows items}
      (each : List.Forall₂ (RowKept python fields) rows items) :
      AttributeKept (.items name required fields) (.array rows) (.items items)

end Kept

/-- The keys that a prologue reads, all of them as texts. -/
def Prologue.keys : Prologue → List String
  | header => ["data_code", "data_creation_date"]
  | dated => ["data_code", "data_creation_date", "meet_date"]
  | race =>
      ["data_code", "data_creation_date", "meet_year", "meet_date", "racecourse_code",
       "meet_round", "meet_day", "race_number"]
  | announcedRace | announcedMeet =>
      ["data_code", "data_creation_date", "meet_year", "meet_date", "racecourse_code",
       "meet_round", "meet_day", "race_number", "announcement_datetime"]

def Decoder.keys (decoder : Decoder) : List String :=
  decoder.prologue.keys ++ decoder.attributes.map Attribute.name

def schemaNames (type : RecordType) : List String :=
  (emittedFields (schemaOf type)).map SchemaField.name

section Agreement

variable (python : PythonStr) (codePage : Bytes → Option Bytes) (rawData : Bytes)
  (type : RecordType)

/-- The attributes are those of what is emitted, field by field and element by element. -/
structure AgreesOnWire (attributes : List (String × AttributeValue)) : Prop where
  texts : ∀ key ∈ (decoderOf type).prologue.keys, key ∉ schemaNames type ∨
    ∃ bytes, (dataOf codePage rawData).member? key = some (.string bytes)
  kept : ∀ own ∈ (decoderOf type).prologue.attributes ++ (decoderOf type).attributes,
    own.name ∉ schemaNames type ∧ (dataOf codePage rawData).member? own.name = none ∨
    ∃ value decoded, (dataOf codePage rawData).member? own.name = some value ∧
      (own.name, decoded) ∈ attributes ∧ AttributeKept python own value decoded
  read : OnlyMembers (decoderOf type).keys (dataOf codePage rawData)

/-- Parsing and decoding the record loses no field and no element. -/
def WireAgreement (includeRaw : Bool) : Prop :=
  ∃ raw attributes,
    decodeRow python includeRaw (storedRow codePage rawData) =
      .ok { type := utf8 type.name, record := .known (utf8 type.name) attributes, raw } ∧
    AgreesOnWire python codePage rawData type attributes

/-- Each first ride and first win of a jockey that is emitted has a key that is not blank. -/
def firstsNamed : Prop :=
  ∀ basePos ∈ [264, 264 + 67, 398, 398 + 64], slotFilled codePage rawData basePos →
    pythonStrip (characters (extractAndConvert codePage rawData basePos 16)) ≠ []

end Agreement

/-! ## The tables -/

def Slice.suits (reading : Reading) : Slice → Bool
  | .text _ _ _ => reading != .ints && reading != .strs
  | .array _ _ _ _ => reading == .ints || reading == .strs

/-- The entries have the keys of the fields. -/
def suitsEntry (fields : List Field) (entry : List Slice) : Bool :=
  !entry.isEmpty &&
    fields.all (fun field => entry.any fun slice =>
      slice.name == field.1 && Slice.suits field.2 slice) &&
    entry.all fun slice => (fields.map Prod.fst).contains slice.name

def Attribute.suits : Attribute → Statement → Bool
  | .field name reading, .field slice => slice.name == name && Slice.suits reading slice
  | .items name _ fields, .objects own _ _ _ _ entry => own == name && suitsEntry fields entry
  | .field _ _, .objects _ _ _ _ _ _ | .items _ _ _, .field _ => false

def emitsText (type : RecordType) (key : String) : Bool :=
  (statementsOf type).any fun statement => match statement with
    | .field (.text name _ _) => name == key
    | _ => false

/-- The table of the parser and that of the decoder suit each other. -/
def suits (type : RecordType) : Bool :=
  ((decoderOf type).prologue.keys.all fun key =>
      emitsText type key || !(schemaNames type).contains key) &&
    (((decoderOf type).prologue.attributes ++ (decoderOf type).attributes).all fun own =>
      (statementsOf type).any own.suits) &&
    (statementsOf type).all fun statement => (decoderOf type).keys.contains statement.name

/-- The types of which the tables differ. -/
def diverges (type : RecordType) : Bool := losesFields type || type == .wf

set_option maxRecDepth 10000 in
theorem suits_of_not_diverges (type : RecordType) (known : type ≠ .unknown)
    (agrees : diverges type = false) : suits type = true := by
  cases type with
  | unknown => contradiction
  | h1 | h6 | ck | wf => cases agrees
  | _ => decide +kernel

/-- Only the first rides and the first wins of a jockey need a key. -/
theorem required_keyed (type : RecordType) : (decoderOf type).attributes.all (fun own =>
    match own with
    | .field _ _ => true
    | .items name required _ => required == if isKeyed type name then some "race_key" else none) =
      true := by
  cases type <;> decide +kernel

/-! ## What the decoder makes of what is emitted -/

section Emitted

variable {python : PythonStr} {codePage : Bytes → Option Bytes} {rawData : Bytes}
  {type : RecordType}

theorem kept_str (bytes : Bytes) :
    Kept python .str (.string bytes) (.str (toText python (some (.string bytes)))) := by
  have text := toText_string python bytes
  by_cases blank : pythonStrip (characters bytes) = []
  · rw [if_pos blank] at text
    rw [text]
    exact .str blank.symm (iff_of_true rfl blank)
  · rw [if_neg blank] at text
    rw [text]
    exact .str rfl (iff_of_false (by simp) blank)

theorem slice_kept {slice : Slice} {reading : Reading} {basePos : Nat} {value : FieldValue}
    (suited : Slice.suits reading slice = true)
    (read : reading.read python (some (slice.emit codePage rawData basePos)) = .ok value) :
    Kept python reading (slice.emit codePage rawData basePos) value := by
  cases slice with
  | text name start size =>
      cases reading with
      | ints | strs => cases suited
      | str =>
          obtain rfl := Except.ok.inj read
          exact kept_str _
      | int | float | date | time | saleFlag => exact .single (by decide) read
  | array name start size count =>
      cases reading with
      | ints =>
          obtain rfl := Except.ok.inj read
          apply Kept.ints
          rw [decodeIntArray, List.forall₂_map_right_iff]
          refine List.forall₂_same.mpr fun item inside => ?_
          obtain ⟨i, -, rfl⟩ := List.mem_map.mp inside
          exact ⟨_, rfl, rfl⟩
      | strs =>
          obtain rfl := Except.ok.inj read
          apply Kept.strs
          rw [decodeStrArray, List.forall₂_map_right_iff]
          refine List.forall₂_same.mpr fun item inside => ?_
          obtain ⟨i, -, rfl⟩ := List.mem_map.mp inside
          refine ⟨_, rfl, ?_⟩
          rw [toText_string]
          split
          · next blank => exact blank.symm
          · rfl
      | str | int | float | date | time | saleFlag => cases suited

theorem row_kept {fields : List Field} {entry : List Slice} {basePos : Nat} {item : Item}
    (suited : suitsEntry fields entry = true) (distinct : (entry.map Slice.name).Nodup)
    (read : readItem python fields (.record (emitEntry codePage rawData entry basePos)) =
      .ok item) :
    RowKept python fields (.record (emitEntry codePage rawData entry basePos)) item := by
  simp only [suitsEntry, Bool.and_eq_true, List.all_eq_true] at suited
  obtain ⟨⟨-, finds⟩, known⟩ := suited
  constructor
  · apply onlyMembers_record
    rw [emitEntry_names]
    intro name inside
    obtain ⟨slice, listed, rfl⟩ := List.mem_map.mp inside
    exact List.contains_iff_mem.mp (known slice listed)
  · have steps := (List.forall₂_and_left _ _).mpr ⟨finds, mapM_ok_iff.mp read⟩
    refine steps.imp ?_
    rintro field entry ⟨listed, step⟩
    obtain ⟨slice, among, same⟩ := List.any_eq_true.mp listed
    simp only [Bool.and_eq_true, beq_iff_eq] at same
    obtain ⟨value, done, same'⟩ := bind_ok_iff.mp step
    obtain rfl := Except.ok.inj same'
    have found : (Json.record (emitEntry codePage rawData entry basePos)).member? slice.name =
        some (slice.emit codePage rawData basePos) := member?_emitEntry distinct among
    rw [same.1] at found
    rw [found] at done
    exact ⟨rfl, _, found, slice_kept same.2 done⟩

/-- No element is lost when no row of the list is skipped. -/
theorem items_kept_iff {name own : String} {required : Option String} {fields : List Field}
    {start stride count : Nat} {skip : Skip} {entry : List Slice} {items : List Item}
    (suited : suitsEntry fields entry = true) (distinct : (entry.map Slice.name).Nodup)
    (read : readItems python required fields
      (some ((Statement.objects own start stride count skip entry).emit codePage rawData)) =
        .ok items) :
    AttributeKept python (.items name required fields)
        ((Statement.objects own start stride count skip entry).emit codePage rawData)
        (.items items) ↔
      ∀ basePos ∈ Statement.kept codePage rawData start stride count skip,
        skipsRow python required (.record (emitEntry codePage rawData entry basePos)) = false := by
  simp only [readItems, Statement.emit, toList_emitted, List.filter_map] at read
  have each := mapM_ok_iff.mp read
  rw [List.forall₂_map_left_iff] at each
  constructor
  · intro kept
    cases kept with
    | items rows =>
        have lengths := rows.length_eq
        rw [List.length_map] at lengths
        have all := List.length_filter_eq_length_iff.mp (each.length_eq.trans lengths.symm)
        exact fun basePos inside => by simpa using all basePos inside
  · intro all
    rw [List.filter_eq_self.mpr fun basePos inside => by simpa using all basePos inside] at each
    apply AttributeKept.items
    rw [List.forall₂_map_left_iff]
    exact each.imp fun basePos item read => row_kept suited distinct read

theorem skips_unkeyed {entry : List Slice} {basePos : Nat} (filled : entry ≠ [])
    (distinct : (entry.map Slice.name).Nodup) :
    skipsRow python none (.record (emitEntry codePage rawData entry basePos)) = false := by
  obtain ⟨first, rest, rfl⟩ := List.exists_cons_of_ne_nil filled
  exact skipsRow_of_member (member?_emitEntry distinct List.mem_cons_self)

theorem skips_keyed_iff {entry : List Slice} {basePos : Nat}
    (distinct : (entry.map Slice.name).Nodup) (key : .text "race_key" 0 16 ∈ entry) :
    skipsRow python (some "race_key") (.record (emitEntry codePage rawData entry basePos)) =
        false ↔
      pythonStrip (characters (extractAndConvert codePage rawData basePos 16)) ≠ [] := by
  have row : (Json.record (emitEntry codePage rawData entry basePos)).member? "race_key" =
      some (.string (extractAndConvert codePage rawData (basePos + 0) 16)) :=
    member?_emitEntry distinct key
  rw [skipsRow_of_member row]
  simp only [row, toText_string, Nat.add_zero]
  split
  · next blank => simp [blank]
  · next solid => simp [solid]

/-! ## The first rides and the first wins -/

/-- The statements of the two lists. -/
theorem keyed_statement {statement : Statement} (inside : statement ∈ statementsOf .ks)
    (keyed : isKeyed .ks statement.name = true) :
    ∃ name start stride entry,
      statement = .objects name start stride 2 (.spaces 16) (.text "race_key" 0 16 :: entry) ∧
        (start = 264 ∧ stride = 67 ∨ start = 398 ∧ stride = 64) := by
  obtain ⟨spaces, -⟩ := skip_keyed .ks statement inside keyed
  have skips : statement ∈ (statementsOf .ks).filter fun statement => statement.skip != .never := by
    refine List.mem_filter.mpr ⟨inside, ?_⟩
    cases statement with
    | field slice => cases spaces
    | objects name start stride count skip entry =>
        simp only [keySkipped, Bool.and_eq_true, beq_iff_eq] at spaces
        simp [Statement.skip, spaces.1]
  rw [Records.jockey_skips, List.mem_pair] at skips
  obtain rfl | rfl := skips
  · exact ⟨_, _, _, _, rfl, .inl ⟨rfl, rfl⟩⟩
  · exact ⟨_, _, _, _, rfl, .inr ⟨rfl, rfl⟩⟩

theorem unskipped_of_named {own : Attribute} {name : String} {required : Option String}
    {fields : List Field} {start stride count : Nat} {skip : Skip} {entry : List Slice}
    (same : own = .items name required fields) (listed : own ∈ (decoderOf type).attributes)
    (inside : .objects name start stride count skip entry ∈ statementsOf type)
    (suited : suitsEntry fields entry = true)
    (named : type = .ks → firstsNamed codePage rawData) :
    ∀ basePos ∈ Statement.kept codePage rawData start stride count skip,
      skipsRow python required (.record (emitEntry codePage rawData entry basePos)) = false := by
  have distinct : (entry.map Slice.name).Nodup := entries_distinct type _ inside
  have needs := List.all_eq_true.mp (required_keyed type) own listed
  subst same
  simp only [beq_iff_eq] at needs
  intro basePos kept
  cases keyed : isKeyed type name with
  | false =>
      rw [keyed] at needs
      obtain rfl : required = none := needs
      simp only [suitsEntry, Bool.and_eq_true, Bool.not_eq_true', List.isEmpty_eq_false_iff]
        at suited
      exact skips_unkeyed suited.1.1 distinct
  | true =>
      rw [keyed] at needs
      obtain rfl : required = some "race_key" := needs
      have jockey : type = .ks := by
        by_contra other
        simp [isKeyed, other] at keyed
      subst jockey
      obtain ⟨_, _, _, rest, same, places⟩ := keyed_statement inside keyed
      cases same
      obtain ⟨placed, filled⟩ := List.mem_filter.mp kept
      refine (skips_keyed_iff distinct List.mem_cons_self).mpr (named rfl basePos ?_ ?_)
      · simp only [List.range_succ, List.range_zero, List.nil_append, List.map_cons, List.map_nil,
          List.cons_append, List.mem_cons, List.not_mem_nil, or_false] at placed ⊢
        omega
      · simpa [slotFilled] using filled

/-- What the decoder reads from the statement that suits it is kept. -/
theorem attribute_kept {own : Attribute} {statement : Statement} {value : AttributeValue}
    (listed : own ∈ (decoderOf type).prologue.attributes ++ (decoderOf type).attributes)
    (inside : statement ∈ statementsOf type) (suited : own.suits statement = true)
    (named : type = .ks → firstsNamed codePage rawData)
    (read : own.read python (emitted codePage rawData type) = .ok value) :
    (emitted codePage rawData type).member? own.name = some (statement.emit codePage rawData) ∧
      AttributeKept python own (statement.emit codePage rawData) value := by
  have found : (emitted codePage rawData type).member? statement.name =
      some (statement.emit codePage rawData) := member?_emitFields (statements_distinct type) inside
  cases own with
  | field name reading =>
      cases statement with
      | objects => cases suited
      | field slice =>
          simp only [Attribute.suits, Bool.and_eq_true, beq_iff_eq] at suited
          obtain ⟨rfl, suited⟩ := suited
          obtain ⟨decoded, done, same⟩ := bind_ok_iff.mp read
          obtain rfl := Except.ok.inj same
          change (emitted codePage rawData type).member? slice.name = _ at found
          rw [found] at done
          exact ⟨found, .field (slice_kept suited done)⟩
  | items name required fields =>
      cases statement with
      | field slice => cases suited
      | objects other start stride count skip entry =>
          simp only [Attribute.suits, Bool.and_eq_true, beq_iff_eq] at suited
          obtain ⟨rfl, suited⟩ := suited
          obtain ⟨items, done, same⟩ := bind_ok_iff.mp read
          obtain rfl := Except.ok.inj same
          change (emitted codePage rawData type).member? other = _ at found
          rw [found] at done
          have own : .items other required fields ∈ (decoderOf type).attributes := by
            refine (List.mem_append.mp listed).resolve_left fun shared => ?_
            cases prologue : (decoderOf type).prologue <;>
              simp [prologue, Prologue.attributes] at shared
          refine ⟨found, (items_kept_iff suited (entries_distinct type _ inside) done).mpr ?_⟩
          exact unskipped_of_named rfl own inside suited named

end Emitted

/-! ## Records -/

section Lost

variable {python : PythonStr} {codePage : Bytes → Option Bytes} {rawData : Bytes}
  {type : RecordType} {attributes : List (String × AttributeValue)}
  (data : dataOf codePage rawData = emitted codePage rawData type)
include data

theorem agreesOnWire (decoded : (decoderOf type).decode python (emitted codePage rawData type) =
      .ok attributes) (suited : suits type = true)
    (named : type = .ks → firstsNamed codePage rawData) :
    AgreesOnWire python codePage rawData type attributes := by
  simp only [suits, Bool.and_eq_true, List.all_eq_true] at suited
  obtain ⟨⟨texts, own⟩, all⟩ := suited
  refine ⟨fun key listed => ?_, fun single listed => .inr ?_, ?_⟩
  · rw [data]
    have either := texts key listed
    rw [Bool.or_eq_true] at either
    obtain emits | missing := either
    · obtain ⟨statement, inside, same⟩ := List.any_eq_true.mp emits
      have found : (emitted codePage rawData type).member? statement.name = _ :=
        member?_emitFields (statements_distinct type) inside
      split at same
      · rw [← beq_iff_eq.mp same]
        exact .inr ⟨_, found⟩
      · cases same
    · exact .inl (by simpa using missing)
  · rw [data]
    obtain ⟨statement, inside, suited⟩ := List.any_eq_true.mp (own single listed)
    obtain ⟨value, read, member⟩ := attribute_of_decoder decoded listed
    obtain ⟨found, kept⟩ := attribute_kept listed inside suited named read
    exact ⟨_, value, found, member, kept⟩
  · rw [data]
    apply onlyMembers_record
    rw [emitFields_names]
    intro name inside
    obtain ⟨statement, listed, rfl⟩ := List.mem_map.mp inside
    exact List.contains_iff_mem.mp (all statement listed)

/-- The refunds of the votes are texts and read as lists, distances are not read, and WIN5 has
no race. -/
theorem not_agreesOnWire (differs : diverges type = true) :
    ¬ AgreesOnWire python codePage rawData type attributes := by
  intro agrees
  have refunds {start size : Nat} (inside : .text "refund_horse_numbers" start size ∈
        statementsOf type) (listed : .strs "refund_horse_numbers" ∈ (decoderOf type).attributes)
      (named : "refund_horse_numbers" ∈ schemaNames type) : False := by
    obtain ⟨absent, -⟩ | ⟨value, decoded, found, -, kept⟩ :=
      agrees.kept _ (List.mem_append_right _ listed)
    · exact absent named
    · have single : (emitted codePage rawData type).member? "refund_horse_numbers" = _ :=
        member?_emitFields (statements_distinct type) inside
      rw [data] at found
      obtain rfl := Option.some.inj (single.symm.trans found)
      cases kept with
      | field kept =>
          cases kept with
          | single other read => exact other.2.2 rfl
  simp only [diverges, losesFields, Bool.or_eq_true, beq_iff_eq] at differs
  obtain ((rfl | rfl) | rfl) | rfl := differs
  · exact refunds (List.mem_of_getElem? (i := 18) rfl) (by decide) (by decide +kernel)
  · exact refunds (List.mem_of_getElem? (i := 11) rfl) (by decide) (by decide +kernel)
  · obtain ⟨statement, inside, named⟩ := List.mem_map.mp
      (by decide +kernel : "turf_dist_1200_placing_counts" ∈ (statementsOf .ck).map Statement.name)
    have found : (emitted codePage rawData .ck).member? statement.name = _ :=
      member?_emitFields (statements_distinct .ck) inside
    have read := agrees.read statement.name (by rw [data, found]; simp)
    rw [named] at read
    exact absurd read (by decide +kernel)
  · obtain absent | ⟨bytes, found⟩ := agrees.texts "racecourse_code" (by decide)
    · exact absent (by decide +kernel)
    · rw [data, emitted, member?_record_none (by rw [emitFields_names]; decide +kernel)] at found
      cases found

/-- A key that is blank has its row skipped. -/
theorem firstsNamed_of_agrees (jockey : type = .ks)
    (decoded : (decoderOf type).decode python (emitted codePage rawData type) = .ok attributes)
    (agrees : AgreesOnWire python codePage rawData type attributes) :
    firstsNamed codePage rawData := by
  subst jockey
  have named {name : String} {start stride count : Nat} {entry : List Slice} {fields : List Field}
      (listed : .items name (some "race_key") fields ∈ (decoderOf .ks).attributes)
      (inside : .objects name start stride count (.spaces 16) entry ∈ statementsOf .ks)
      (suited : suitsEntry fields entry = true) (key : .text "race_key" 0 16 ∈ entry)
      (schema : name ∈ schemaNames .ks) :
      ∀ basePos ∈ Statement.kept codePage rawData start stride count (.spaces 16),
        pythonStrip (characters (extractAndConvert codePage rawData basePos 16)) ≠ [] := by
    have distinct : (entry.map Slice.name).Nodup := entries_distinct .ks _ inside
    have among := List.mem_append_right (decoderOf .ks).prologue.attributes listed
    obtain ⟨absent, -⟩ | ⟨value, items, found, member, kept⟩ := agrees.kept _ among
    · exact absurd schema absent
    · have array : (emitted codePage rawData .ks).member?
          (Statement.objects name start stride count (.spaces 16) entry).name = _ :=
        member?_emitFields (statements_distinct .ks) inside
      change (emitted codePage rawData .ks).member? name = _ at array
      rw [data] at found
      obtain rfl := Option.some.inj (array.symm.trans found)
      obtain ⟨items, read, same⟩ := bind_ok_iff.mp ((attribute_mem_iff decoded among).mp member)
      obtain rfl := Except.ok.inj same
      rw [array] at read
      intro basePos filled
      exact (skips_keyed_iff distinct key).mp
        ((items_kept_iff suited distinct read).mp kept basePos filled)
  have lists : ∀ statement ∈ (statementsOf .ks).filter fun statement => statement.skip != .never,
      statement ∈ statementsOf .ks := fun _ listed => List.mem_of_mem_filter listed
  rw [Records.jockey_skips, List.forall_mem_cons, List.forall_mem_singleton] at lists
  have rides := named
    (by decide : Attribute.items "first_ride_info" (some "race_key") decodeFirstRideInfo ∈ _)
    lists.1 (by decide) List.mem_cons_self (by decide +kernel)
  have wins := named
    (by decide : Attribute.items "first_win_info" (some "race_key") decodeFirstWinInfo ∈ _)
    lists.2 (by decide) List.mem_cons_self (by decide +kernel)
  have slot {start stride : Nat} (index : Nat) (within : index < 2)
      (filled : slotFilled codePage rawData (start + index * stride)) :
      start + index * stride ∈ Statement.kept codePage rawData start stride 2 (.spaces 16) :=
    List.mem_filter.mpr ⟨List.mem_map.mpr ⟨index, List.mem_range.mpr within, rfl⟩,
      by simpa [slotFilled] using filled⟩
  intro basePos listed filled
  simp only [List.mem_cons, List.not_mem_nil, or_false] at listed
  obtain rfl | rfl | rfl | rfl := listed
  · exact rides _ (slot 0 (by decide) filled)
  · exact rides _ (slot 1 (by decide) filled)
  · exact wins _ (slot 0 (by decide) filled)
  · exact wins _ (slot 1 (by decide) filled)

end Lost

section Records

variable {python : PythonStr} (capitals : KeepsCapitals python)
  {codePage : Bytes → Option Bytes} (page : CodePage932 codePage) (includeRaw : Bool)
include capitals page

/-- No field and no element is lost between the parser and the decoder, unless the record is of
one of four types or has a first ride or a first win of a jockey with a blank key. -/
theorem wire_agreement_iff {rawData : Bytes} {type : RecordType}
    (is : (parseRecord (parseBasicFields codePage) rawData).type = type) (known : type ≠ .unknown) :
    WireAgreement python codePage rawData type includeRaw ↔
      diverges type = false ∧ (type = .ks → firstsNamed codePage rawData) := by
  have data : dataOf codePage rawData = emitted codePage rawData type := (typeOf_known is known).2
  obtain ⟨raw, attributes, decoded, row⟩ :=
    decodeRow_attributes capitals page includeRaw is known
  constructor
  · rintro ⟨_, others, done, agrees⟩
    have same := Except.ok.inj (row.symm.trans done)
    simp only [DomainEnvelope.mk.injEq, DomainRecord.known.injEq, true_and] at same
    rw [← same.1] at agrees
    refine ⟨?_, fun jockey => firstsNamed_of_agrees data jockey decoded agrees⟩
    rw [Bool.eq_false_iff]
    exact fun differs => not_agreesOnWire data differs agrees
  · rintro ⟨same, named⟩
    exact ⟨raw, attributes, row,
      agreesOnWire data decoded (suits_of_not_diverges type known same) named⟩

end Records

theorem wire_agreement_iff_jockey :
    WireAgreement plainText printablePage (monotone .ks 65) .ks true := by
  have capitals : KeepsCapitals plainText := fun _ _ => rfl
  refine (wire_agreement_iff capitals printablePage_coded true (by decide +kernel)
    (by decide)).mpr ⟨rfl, fun _ => ?_⟩
  have keys : ∀ basePos ∈ [264, 264 + 67, 398, 398 + 64], pythonStrip (characters
      (extractAndConvert printablePage (monotone .ks 65) basePos 16)) ≠ [] := by
    decide +kernel
  exact fun basePos listed _ => keys basePos listed

/-- The horses whose bets are refunded get lost, whatever is in the other fields. -/
theorem refund_horses_lost :
    ¬ ∀ (codePage : Bytes → Option Bytes) (rawData : Bytes) (type : RecordType),
      CodePage932 codePage →
      (parseRecord (parseBasicFields codePage) rawData).type = type → type ≠ .unknown →
      (schemaOf type).recordLength ≤ rawData.length →
      WireAgreement plainText codePage rawData type true := by
  intro agree
  have is : (parseRecord (parseBasicFields printablePage) (monotone .h1 48)).type = .h1 := by
    decide +kernel
  obtain ⟨raw, attributes, -, agrees⟩ := agree printablePage (monotone .h1 48) .h1
    printablePage_coded is (by decide) (by decide +kernel)
  exact not_agreesOnWire (typeOf_known is (by decide)).2 rfl agrees

end JVLinkServer.Client
