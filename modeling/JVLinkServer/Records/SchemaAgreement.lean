import JVLinkServer.Records.MasterParsers
import JVLinkServer.Records.MasterSchemas

namespace JVLinkServer.Records

/-! # Parsers against schemas

Each statement of a parser is compared with the field of the schema that it stands for.
The comparison is of tables; what it means for every record is proved from it.
-/

/-! ## The comparison -/

def ElementField.describes (field : ElementField) : Slice → Bool
  | .text name start size =>
      field.name == name && field.wireType == .string && field.arrayInfo.isNone &&
        field.byteOffset == start && field.byteSize == size
  | .array name start size count =>
      field.name == name && field.byteOffset == start && field.byteSize == size * count &&
        match field.arrayInfo with
        | some info => info.elementSize == size && info.count == count
        | none => field.wireType == .array

def SchemaField.describes (field : SchemaField) : Statement → Bool
  | .field (.text name start size) =>
      field.name == name && field.wireType == .string && field.arrayInfo.isNone &&
        field.bytePosition == start + 1 && field.byteSize == size
  | .field (.array name start size count) =>
      field.name == name && field.bytePosition == start + 1 && field.byteSize == size * count &&
        field.arrayInfo == some { elementSize := size, count } && field.elementFields.isNone
  | .objects name start stride count _ entry =>
      field.name == name && field.bytePosition == start + 1 && field.byteSize == stride * count &&
        field.arrayInfo == some { elementSize := stride, count } &&
        match field.elementFields with
        | some fields => List.all₂ ElementField.describes fields entry
        | none => false

/-- The fields that are to be emitted. -/
def emittedFields (schema : RecordSchema) : List SchemaField :=
  (resolveFields schema).filter fun field => field.semanticType != .reserved

/-! ## What a schema says of a record -/

/-- The object has no member with another name. -/
def OnlyMembers (names : List String) (value : Json) : Prop :=
  ∀ name, value.member? name ≠ none → name ∈ names

section Shown

variable (codePage : Bytes → Option Bytes) (rawData : Bytes)

/-- Of an array without an element size the schema tells no more than that it has the bytes
of the field. -/
def ElementField.Shown (basePos : Nat) (field : ElementField) (value : Json) : Prop :=
  match field.arrayInfo, field.wireType with
  | some info, _ =>
      value = extractAndConvertArray codePage rawData (basePos + field.byteOffset) info.elementSize
        info.count
  | none, .string =>
      value = .string (extractAndConvert codePage rawData (basePos + field.byteOffset)
        field.byteSize)
  | none, .array => ∃ elementSize count, elementSize * count = field.byteSize ∧
      value = extractAndConvertArray codePage rawData (basePos + field.byteOffset) elementSize count

def EntryShown (fields : List ElementField) (basePos : Nat) (entry : Json) : Prop :=
  (∀ field ∈ fields, ∃ value, entry.member? field.name = some value ∧
    field.Shown codePage rawData basePos value) ∧
  OnlyMembers (fields.map ElementField.name) entry

/-- The only entries that may be missing are those that `skip` leaves out. -/
def SchemaField.Shown (skip : Skip) (field : SchemaField) (value : Json) : Prop :=
  match field.arrayInfo, field.elementFields with
  | none, _ =>
      value = .string (extractAndConvert codePage rawData (field.bytePosition - 1) field.byteSize)
  | some info, none =>
      value = extractAndConvertArray codePage rawData (field.bytePosition - 1) info.elementSize
        info.count
  | some info, some fields => ∃ entries, value = .array entries ∧
      List.Forall₂ (EntryShown codePage rawData fields)
        (Statement.kept codePage rawData (field.bytePosition - 1) info.elementSize info.count skip)
        entries

/-- The horses of a special registration are the only list with a declared length. -/
def omissible (type : RecordType) (name : String) : Skip :=
  if type = .tk ∧ name = "entry_horses" then .text 3 "   " else .never

/-- What is emitted for the record has every field that the schema has, with the texts that
are in its bytes. -/
def ShowsFields : Prop :=
  let record := parseRecord (parseBasicFields codePage) rawData
  ∀ field ∈ emittedFields (schemaOf record.type), ∃ value,
    record.structuredData.member? field.name = some value ∧
      field.Shown codePage rawData (omissible record.type field.name) value

/-- What is emitted has every field that the schema has, and nothing else. -/
def Implements : Prop :=
  let record := parseRecord (parseBasicFields codePage) rawData
  (∀ field ∈ emittedFields (schemaOf record.type), ∃ value,
    record.structuredData.member? field.name = some value ∧
      field.Shown codePage rawData (omissible record.type field.name) value) ∧
  OnlyMembers ((emittedFields (schemaOf record.type)).map SchemaField.name) record.structuredData

end Shown

/-! ## From the tables to the records -/

/-- What the left list has, the right list has a counterpart of. -/
theorem exists_counterpart {α β : Type} {related : α → β → Prop} {left : List α} {right : List β}
    (pairs : List.Forall₂ related left right) {item : α} (inside : item ∈ left) :
    ∃ other ∈ right, related item other := by
  induction pairs with
  | nil => cases inside
  | cons first _ ih =>
      obtain rfl | inside := List.mem_cons.mp inside
      · exact ⟨_, List.mem_cons_self, first⟩
      · obtain ⟨other, member, same⟩ := ih inside
        exact ⟨other, List.mem_cons_of_mem _ member, same⟩

/-- Related items have one name. -/
theorem names_eq {α β : Type} {related : α → β → Prop} {left : α → String} {right : β → String}
    {items : List α} {others : List β} (pairs : List.Forall₂ related items others)
    (named : ∀ item other, related item other → left item = right other) :
    items.map left = others.map right := by
  induction pairs with
  | nil => rfl
  | cons first _ ih => rw [List.map_cons, List.map_cons, named _ _ first, ih]

theorem onlyMembers_record {names : List String} {members : List (String × Json)}
    (known : members.map Prod.fst ⊆ names) : OnlyMembers names (.record members) := by
  intro name found
  refine Classical.byContradiction fun absent => found (member?_record_none ?_)
  exact fun inside => absent (known inside)

section Agreement

variable {codePage : Bytes → Option Bytes} {rawData : Bytes}

theorem ElementField.name_of_describes {field : ElementField} {slice : Slice}
    (describes : field.describes slice = true) : field.name = slice.name := by
  cases slice with
  | text =>
      simp only [ElementField.describes, Bool.and_eq_true, beq_iff_eq] at describes
      obtain ⟨⟨⟨⟨named, -⟩, -⟩, -⟩, -⟩ := describes
      exact named
  | array =>
      simp only [ElementField.describes, Bool.and_eq_true, beq_iff_eq] at describes
      obtain ⟨⟨⟨named, -⟩, -⟩, -⟩ := describes
      exact named

variable (codePage rawData) in
theorem ElementField.shown_of_describes {field : ElementField} {slice : Slice} (basePos : Nat)
    (describes : field.describes slice = true) :
    field.Shown codePage rawData basePos (slice.emit codePage rawData basePos) := by
  cases slice with
  | text name start size =>
      simp only [ElementField.describes, Bool.and_eq_true, beq_iff_eq, Option.isNone_iff_eq_none]
        at describes
      obtain ⟨⟨⟨⟨-, wire⟩, single⟩, placed⟩, sized⟩ := describes
      simp [ElementField.Shown, single, wire, placed, sized, Slice.emit]
  | array name start size count =>
      simp only [ElementField.describes, Bool.and_eq_true, beq_iff_eq] at describes
      obtain ⟨⟨⟨-, placed⟩, sized⟩, elements⟩ := describes
      cases info : field.arrayInfo with
      | some info =>
          simp_all [ElementField.Shown, Slice.emit]
      | none =>
          rw [info] at elements
          have wire : field.wireType = .array := by simpa using elements
          simp only [ElementField.Shown, info, wire, placed]
          exact ⟨size, count, sized.symm, rfl⟩

theorem entryShown_of_describes {fields : List ElementField} {entry : List Slice}
    (describes : List.all₂ ElementField.describes fields entry = true)
    (distinct : (entry.map Slice.name).Nodup) (basePos : Nat) :
    EntryShown codePage rawData fields basePos
      (.record (emitEntry codePage rawData entry basePos)) := by
  have pairs := (List.all₂_eq_true _ _).mp describes
  constructor
  · intro field inside
    obtain ⟨slice, member, described⟩ := exists_counterpart pairs inside
    have shown := ElementField.shown_of_describes codePage rawData basePos described
    exact ⟨_, ElementField.name_of_describes described ▸ member?_emitEntry distinct member, shown⟩
  · apply onlyMembers_record
    rw [emitEntry_names, names_eq pairs fun _ _ => ElementField.name_of_describes]
    exact List.Subset.refl _

/-- The loop leaves out the entries that `skip` does, and no others. -/
def Statement.LeavesOut (codePage : Bytes → Option Bytes) (rawData : Bytes) (skip : Skip) :
    Statement → Prop
  | .field _ => True
  | .objects _ start stride count own _ =>
      Statement.kept codePage rawData start stride count own =
        Statement.kept codePage rawData start stride count skip

theorem kept_never (start stride count : Nat) :
    Statement.kept codePage rawData start stride count .never =
      (List.range count).map fun i => start + i * stride := by
  simp [Statement.kept, Skip.leavesOut]

/-- The names in an entry differ from each other. -/
def Statement.entryNames : Statement → List String
  | .field _ => []
  | .objects _ _ _ _ _ entry => entry.map Slice.name

def Statement.skip : Statement → Skip
  | .field _ => .never
  | .objects _ _ _ _ skip _ => skip

theorem SchemaField.name_of_describes {field : SchemaField} {statement : Statement}
    (describes : field.describes statement = true) : field.name = statement.name := by
  cases statement with
  | field slice =>
      cases slice with
      | text | array =>
          simp only [SchemaField.describes, Bool.and_eq_true, beq_iff_eq] at describes
          obtain ⟨⟨⟨⟨named, -⟩, -⟩, -⟩, -⟩ := describes
          exact named
  | objects =>
      simp only [SchemaField.describes, Bool.and_eq_true, beq_iff_eq] at describes
      obtain ⟨⟨⟨⟨named, -⟩, -⟩, -⟩, -⟩ := describes
      exact named

variable (codePage rawData) in
/-- A described field is emitted as the schema says when no entry is left out that should
not be. -/
theorem SchemaField.shown_iff {field : SchemaField} {statement : Statement} {skip : Skip}
    (describes : field.describes statement = true) (distinct : statement.entryNames.Nodup)
    (allowed : skip = .never ∨ statement.skip = skip) :
    field.Shown codePage rawData skip (statement.emit codePage rawData) ↔
      statement.LeavesOut codePage rawData skip := by
  cases statement with
  | field slice =>
      refine iff_of_true ?_ trivial
      cases slice with
      | text name start size =>
          simp only [SchemaField.describes, Bool.and_eq_true, beq_iff_eq,
            Option.isNone_iff_eq_none] at describes
          obtain ⟨⟨⟨⟨-, -⟩, single⟩, placed⟩, sized⟩ := describes
          simp [SchemaField.Shown, single, placed, sized, Statement.emit, Slice.emit]
      | array name start size count =>
          simp only [SchemaField.describes, Bool.and_eq_true, beq_iff_eq,
            Option.isNone_iff_eq_none] at describes
          obtain ⟨⟨⟨⟨-, placed⟩, -⟩, info⟩, flat⟩ := describes
          simp [SchemaField.Shown, info, flat, placed, Statement.emit, Slice.emit]
  | objects name start stride count own entry =>
      simp only [SchemaField.describes, Bool.and_eq_true, beq_iff_eq] at describes
      obtain ⟨⟨⟨⟨-, placed⟩, -⟩, info⟩, elements⟩ := describes
      cases inner : field.elementFields with
      | none => simp [inner] at elements
      | some fields =>
          rw [inner] at elements
          simp only [SchemaField.Shown, info, inner, placed, Nat.add_sub_cancel, Statement.emit,
            Json.array.injEq, exists_eq_left', Statement.LeavesOut]
          have entries (places : List Nat) : List.Forall₂ (EntryShown codePage rawData fields)
              places (places.map fun basePos =>
                .record (emitEntry codePage rawData entry basePos)) := by
            rw [List.forall₂_map_right_iff, List.forall₂_same]
            exact fun basePos _ => entryShown_of_describes elements distinct basePos
          constructor
          · intro shown
            have length := shown.length_eq
            rw [List.length_map] at length
            obtain rfl | same := allowed
            · rw [kept_never] at length ⊢
              exact List.filter_sublist.eq_of_length length.symm
            · change own = skip at same
              rw [same]
          · intro same
            rw [← same]
            exact entries _

end Agreement

/-! ## All types -/

/-- The parser of a type follows its schema, statement by statement. -/
def agrees (type : RecordType) : Bool :=
  List.all₂ SchemaField.describes (emittedFields (schemaOf type)) (statementsOf type)

def drifted (type : RecordType) : Bool := type == .h1 || type == .h6 || type == .wf

set_option maxRecDepth 10000 in
theorem agrees_of_not_drifted (type : RecordType) (faithful : drifted type = false) :
    agrees type = true := by
  cases type with
  | h1 | h6 | wf => cases faithful
  | _ => decide +kernel

set_option maxRecDepth 10000 in
theorem codes_distinct (type : RecordType) :
    (((statementsOf type).map Statement.name).map nameCode).Nodup ∧
      ∀ statement ∈ statementsOf type, (statement.entryNames.map nameCode).Nodup := by
  cases type <;> decide +kernel

theorem statements_distinct (type : RecordType) :
    ((statementsOf type).map Statement.name).Nodup :=
  nodup_of_codes (codes_distinct type).1

theorem entries_distinct (type : RecordType) :
    ∀ statement ∈ statementsOf type, statement.entryNames.Nodup :=
  fun statement inside => nodup_of_codes ((codes_distinct type).2 statement inside)

set_option maxRecDepth 10000 in
theorem skip_never (type : RecordType) (other : type ≠ .ks) :
    ∀ statement ∈ statementsOf type, statement.skip = omissible type statement.name := by
  cases type with
  | ks => contradiction
  | _ => decide +kernel

/-- Only in the lists of first rides and first wins of a jockey are entries left out that the
schema has. -/
theorem skip_cases (type : RecordType) :
    ∀ statement ∈ statementsOf type, omissible type statement.name = .never ∨
      statement.skip = omissible type statement.name := by
  by_cases jockey : type = .ks
  · subst jockey
    decide +kernel
  · exact fun statement inside => .inr (skip_never type jockey statement inside)

section Types

variable {codePage : Bytes → Option Bytes} {rawData : Bytes}

theorem structuredData_eq {type : RecordType}
    (is : (parseRecord (parseBasicFields codePage) rawData).type = type) (known : type ≠ .unknown) :
    (parseRecord (parseBasicFields codePage) rawData).structuredData =
      .record (emitFields codePage rawData (statementsOf type)) := by
  subst is
  exact if_neg known

theorem structuredData_unknown
    (is : (parseRecord (parseBasicFields codePage) rawData).type = .unknown) :
    (parseRecord (parseBasicFields codePage) rawData).structuredData = .null :=
  if_pos is

theorem member?_statement {type : RecordType}
    (is : (parseRecord (parseBasicFields codePage) rawData).type = type) (known : type ≠ .unknown)
    {statement : Statement} (inside : statement ∈ statementsOf type) :
    (parseRecord (parseBasicFields codePage) rawData).structuredData.member? statement.name =
      some (statement.emit codePage rawData) := by
  rw [structuredData_eq is known]
  exact member?_emitFields (statements_distinct type) inside

theorem showsFields_iff_leavesOut {type : RecordType}
    (is : (parseRecord (parseBasicFields codePage) rawData).type = type)
    (faithful : drifted type = false) (known : type ≠ .unknown) :
    ShowsFields codePage rawData ↔ ∀ statement ∈ statementsOf type,
      statement.LeavesOut codePage rawData (omissible type statement.name) := by
  have pairs := (List.all₂_eq_true _ _).mp (agrees_of_not_drifted type faithful)
  have shown {field : SchemaField} {statement : Statement} (inside : statement ∈ statementsOf type)
      (described : field.describes statement = true) :=
    field.shown_iff codePage rawData described
      (entries_distinct type statement inside) (skip_cases type statement inside)
  unfold ShowsFields
  dsimp only
  rw [is]
  constructor
  · intro shows statement inside
    obtain ⟨field, member, described⟩ := exists_counterpart (List.Forall₂.flip pairs) inside
    obtain ⟨value, found, shows⟩ := shows field member
    rw [SchemaField.name_of_describes described] at found shows
    rw [member?_statement is known inside] at found
    obtain rfl := Option.some.inj found
    exact (shown inside described).mp shows
  · intro leaves field member
    obtain ⟨statement, inside, described⟩ := exists_counterpart pairs member
    have named := SchemaField.name_of_describes described
    refine ⟨_, named ▸ member?_statement is known inside, ?_⟩
    rw [named]
    exact (shown inside described).mpr (leaves statement inside)

/-- A parser that follows its schema emits no other field. -/
theorem onlyMembers_of_not_drifted {type : RecordType}
    (is : (parseRecord (parseBasicFields codePage) rawData).type = type)
    (faithful : drifted type = false) (known : type ≠ .unknown) :
    OnlyMembers ((emittedFields (schemaOf type)).map SchemaField.name)
      (parseRecord (parseBasicFields codePage) rawData).structuredData := by
  have pairs := (List.all₂_eq_true _ _).mp (agrees_of_not_drifted type faithful)
  rw [structuredData_eq is known]
  apply onlyMembers_record
  rw [emitFields_names, names_eq pairs fun _ _ => SchemaField.name_of_describes]
  exact List.Subset.refl _

/-- A slot of a first ride or a first win that has a race key. -/
def slotFilled (codePage : Bytes → Option Bytes) (rawData : Bytes) (basePos : Nat) : Prop :=
  ¬ (Skip.spaces 16).leavesOut codePage rawData basePos = true

/-- Both slots of the first rides and both of the first wins. -/
def firstsFilled (codePage : Bytes → Option Bytes) (rawData : Bytes) : Prop :=
  ∀ basePos ∈ [264, 264 + 67, 398, 398 + 64], slotFilled codePage rawData basePos

theorem kept_eq_iff {start stride count : Nat} {skip : Skip} :
    Statement.kept codePage rawData start stride count skip =
        Statement.kept codePage rawData start stride count .never ↔
      ∀ basePos ∈ (List.range count).map (fun i => start + i * stride),
        ¬ skip.leavesOut codePage rawData basePos = true := by
  rw [kept_never, Statement.kept, List.filter_eq_self]
  simp only [Bool.not_eq_true', Bool.not_eq_true]

theorem leavesOut_of_skip {statement : Statement} {skip : Skip} (same : statement.skip = skip) :
    statement.LeavesOut codePage rawData skip := by
  cases statement with
  | field => trivial
  | objects name start stride count own entry =>
      change own = skip at same
      rw [same]
      rfl

theorem jockey_skips : (statementsOf .ks).filter (fun statement => statement.skip != .never) =
    [.objects "first_ride_info" 264 67 2 (.spaces 16)
      [.text "race_key" 0 16, .text "num_starters" 16 2, .text "pedigree_reg_num" 18 10,
       .text "horse_name" 28 36, .text "confirmed_placing" 64 2, .text "abnormality_code" 66 1],
     .objects "first_win_info" 398 64 2 (.spaces 16)
      [.text "race_key" 0 16, .text "num_starters" 16 2, .text "pedigree_reg_num" 18 10,
       .text "horse_name" 28 36]] := rfl

theorem jockey_leavesOut_iff :
    (∀ statement ∈ statementsOf .ks,
        statement.LeavesOut codePage rawData (omissible .ks statement.name)) ↔
      firstsFilled codePage rawData := by
  have optional (name : String) : omissible .ks name = .never := if_neg (by simp)
  have skipping : (∀ statement ∈ statementsOf .ks, statement.LeavesOut codePage rawData .never) ↔
      ∀ statement ∈ (statementsOf .ks).filter (fun statement => statement.skip != .never),
        statement.LeavesOut codePage rawData .never := by
    constructor
    · exact fun leaves statement inside => leaves statement (List.mem_of_mem_filter inside)
    · intro leaves statement inside
      by_cases same : statement.skip = .never
      · exact leavesOut_of_skip same
      · exact leaves statement (List.mem_filter.mpr ⟨inside, by simpa using same⟩)
  simp only [optional]
  rw [skipping, jockey_skips]
  simp only [List.forall_mem_cons, List.not_mem_nil, false_implies, implies_true, and_true,
    Statement.LeavesOut, kept_eq_iff, firstsFilled, slotFilled]
  simp [List.range_succ, and_assoc]

/-- The refund lists of the votes are one text each. -/
theorem votes_not_shown {type : RecordType} (votes : type = .h1 ∨ type = .h6)
    (is : (parseRecord (parseBasicFields codePage) rawData).type = type) :
    ¬ ShowsFields codePage rawData := by
  intro showsFields
  unfold ShowsFields at showsFields
  dsimp only at showsFields
  rw [is] at showsFields
  have refuted (field : SchemaField) {name : String} {start size : Nat} {info : ArrayInfo}
      (known : type ≠ .unknown) (member : field ∈ emittedFields (schemaOf type))
      (inside : .text name start size ∈ statementsOf type) (named : field.name = name)
      (array : field.arrayInfo = some info) : False := by
    obtain ⟨value, found, shows⟩ := showsFields field member
    have emitted := member?_statement is known inside
    change _ = some (Json.string _) at emitted
    rw [named] at found
    obtain rfl := Option.some.inj (found.symm.trans emitted)
    unfold SchemaField.Shown at shows
    cases inner : field.elementFields <;> simp [array, inner, extractAndConvertArray] at shows
  obtain rfl | rfl := votes
  · exact refuted (.array "refund_horse_numbers" .arrayStr 40 28 1 28)
      (by simp) (List.mem_of_getElem? (i := 18) rfl) (List.mem_of_getElem? (i := 18) rfl) rfl rfl
  · exact refuted (.array "refund_horse_numbers" .arrayStr 33 18 1 18)
      (by simp) (List.mem_of_getElem? (i := 11) rfl) (List.mem_of_getElem? (i := 11) rfl) rfl rfl

/-- The schema of WIN5 refers to fields of a race that the record has not. -/
theorem win5_not_shown
    (is : (parseRecord (parseBasicFields codePage) rawData).type = .wf) :
    ¬ ShowsFields codePage rawData := by
  intro showsFields
  unfold ShowsFields at showsFields
  dsimp only at showsFields
  rw [is] at showsFields
  have member : .text "racecourse_code" .str 20 2 ∈ emittedFields (schemaOf .wf) :=
    List.mem_of_getElem? (i := 4) rfl
  obtain ⟨value, found, -⟩ := showsFields _ member
  have absent : "racecourse_code" ∉ (statementsOf .wf).map Statement.name := by decide
  rw [structuredData_eq is (by simp), member?_record_none (by rwa [emitFields_names])] at found
  cases found

/-- Three types have a field that is not emitted as the schema has it, whatever the record. -/
theorem drifted_not_shown {type : RecordType} (drifts : drifted type = true)
    (is : (parseRecord (parseBasicFields codePage) rawData).type = type) :
    ¬ ShowsFields codePage rawData := by
  simp only [drifted, Bool.or_eq_true, beq_iff_eq] at drifts
  obtain votes | rfl := drifts
  · exact votes_not_shown votes is
  · exact win5_not_shown is

theorem showsFields_iff {type : RecordType}
    (is : (parseRecord (parseBasicFields codePage) rawData).type = type) (known : type ≠ .unknown) :
    ShowsFields codePage rawData ↔
      drifted type = false ∧ (type = .ks → firstsFilled codePage rawData) := by
  cases faithful : drifted type with
  | true => exact iff_of_false (drifted_not_shown faithful is) (by simp)
  | false =>
      rw [showsFields_iff_leavesOut is faithful known]
      by_cases jockey : type = .ks
      · subst jockey
        rw [jockey_leavesOut_iff]
        simp
      · refine iff_of_true ?_ ⟨rfl, fun same => absurd same jockey⟩
        exact fun statement inside => leavesOut_of_skip (skip_never type jockey statement inside)

/-- The parser emits what the schema says and nothing else, for a record of whatever content and
length, unless it is one of three types or lacks a first ride or a first win of a jockey. -/
theorem implements_iff (codePage : Bytes → Option Bytes) (rawData : Bytes) :
    Implements codePage rawData ↔
      drifted (parseRecord (parseBasicFields codePage) rawData).type = false ∧
        ((parseRecord (parseBasicFields codePage) rawData).type = .ks →
          firstsFilled codePage rawData) := by
  generalize is : (parseRecord (parseBasicFields codePage) rawData).type = type
  by_cases known : type = .unknown
  · subst known
    refine iff_of_true ?_ ⟨rfl, fun other => by cases other⟩
    unfold Implements
    dsimp only
    rw [is]
    refine ⟨fun field member => absurd member List.not_mem_nil, fun name found => ?_⟩
    exact absurd (structuredData_unknown is ▸ rfl) found
  · rw [← showsFields_iff is known]
    constructor
    · exact fun implements => implements.1
    · intro shows
      refine ⟨shows, ?_⟩
      rw [is]
      exact onlyMembers_of_not_drifted is ((showsFields_iff is known).mp shows).1 known

end Types

/-! ## The bytes of a field -/

/-- What is emitted for the record is what the schema gives: each field is there, with the text
of its bytes, and a field that does not fit is empty. -/
structure SlicesImplement (codePage : Bytes → Option Bytes) (rawData : Bytes) : Prop where
  shown : ShowsFields codePage rawData
  fits : ∀ start size, start + size ≤ rawData.length →
    extractAndConvert codePage rawData start size =
      convertEncoding codePage (slice start size rawData)
  short : ∀ start size, rawData.length < start + size →
    extractAndConvert codePage rawData start size = []

theorem slicesImplement_of_shown {codePage : Bytes → Option Bytes} {rawData : Bytes}
    (shown : ShowsFields codePage rawData) : SlicesImplement codePage rawData where
  shown
  fits start size fits := by
    rw [extractAndConvert, extractField, if_neg (Nat.not_lt.mpr fits)]
  short start size short := by
    rw [extractAndConvert, extractField, if_pos short]
    rfl

/-- The slices of the parsers are those of the schemas, but for three types, and but for a
jockey without a first ride or a first win, whose other slot is moved. -/
theorem slices_implement_iff (codePage : Bytes → Option Bytes) {rawData : Bytes}
    {type : RecordType} (is : (parseRecord (parseBasicFields codePage) rawData).type = type)
    (known : type ≠ .unknown) :
    SlicesImplement codePage rawData ↔
      drifted type = false ∧ (type = .ks → firstsFilled codePage rawData) := by
  rw [← showsFields_iff is known]
  exact ⟨fun implement => implement.shown, slicesImplement_of_shown⟩

/-- A record of a type with one byte all over. -/
def monotone (type : RecordType) (byte : UInt8) : Bytes :=
  utf8 type.name ++ List.replicate ((schemaOf type).recordLength - 2) byte

theorem slices_implement_iff_jockey : SlicesImplement some (monotone .ks 65) := by
  have is : (parseRecord (parseBasicFields some) (monotone .ks 65)).type = .ks := by
    decide +kernel
  refine (slices_implement_iff some is (by decide)).mpr ⟨rfl, fun _ => ?_⟩
  unfold firstsFilled slotFilled
  decide +kernel

/-- Of a jockey without any first ride there is no slot at all. -/
theorem blank_rides_left_out :
    ¬ ∀ (codePage : Bytes → Option Bytes) (rawData : Bytes) (type : RecordType),
      (parseRecord (parseBasicFields codePage) rawData).type = type → type ≠ .unknown →
      rawData.length = (schemaOf type).recordLength → SlicesImplement codePage rawData := by
  intro implement
  have is : (parseRecord (parseBasicFields some) (monotone .ks 32)).type = .ks := by
    decide +kernel
  have shown := (implement some (monotone .ks 32) .ks is (by decide) (by decide +kernel)).shown
  have filled := ((showsFields_iff is (by decide)).mp shown).2 rfl
  exact filled 264 (by simp) (by decide +kernel)

end JVLinkServer.Records
