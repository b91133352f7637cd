import JVLinkServer.Client.EventRoundTrip
import JVLinkServer.Client.Heartbeats
import JVLinkServer.Records.SchemaAgreement
import JVLinkServer.UnbrokenLines
import JVLinkServer.Worker.RecordLines

namespace JVLinkServer.Client

open AsyncGenerators Effects Json JVLinkServer.Core JVLinkServer.Records Lines Quoting Worker

/-! # A row for each record

From the records of JV-Link to the rows of the client: the worker parses a record and writes
its line, the client reads the lines of the response and decodes them.
-/

/-! ## The rows that are written -/

/-- What is known of the conversion from code page 932: it succeeds, and its texts have none
of the characters that end a line but are not escaped. -/
def Converts (codePage : Bytes → Option Bytes) : Prop :=
  ∀ text, ∃ converted, codePage text = some converted ∧ UnbrokenText converted

section Written

variable (codePage : Bytes → Option Bytes) (record : Bytes)

def typeOf : Bytes := (recordRow (parseBasicFields codePage) record).1

def dataOf : Json := (recordRow (parseBasicFields codePage) record).2

/-- The row of a record. -/
def storedRow : Json := recordJson (typeOf codePage record) (dataOf codePage record)

end Written

theorem utf8_name_ne {type : RecordType} (known : type ≠ .unknown) :
    utf8 type.name ≠ utf8 "UNKNOWN" := by
  rw [Ne, utf8_inj]
  cases type with
  | unknown => contradiction
  | _ => decide

theorem plain_name (type : RecordType) : plainName type.name = true := by
  cases type <;> decide

theorem names_plain (type : RecordType) :
    ∀ statement ∈ statementsOf type, plainName statement.name = true ∧
      ∀ name ∈ statement.entryNames, plainName name = true := by
  cases type <;> decide +kernel

section Written

variable {codePage : Bytes → Option Bytes} {record : Bytes}

variable (codePage record) in
theorem data_cases : dataOf codePage record = .null ∨
    ∃ type, dataOf codePage record =
      .record (emitFields codePage record (statementsOf type)) := by
  unfold dataOf recordRow parseRecord
  dsimp only
  generalize (if record.length < 2 then RecordType.unknown else _) = type
  split
  · exact .inl rfl
  · exact .inr ⟨type, rfl⟩

theorem canonicalItems_iff {items : List Json} :
    CanonicalItems items ↔ ∀ item ∈ items, item.Canonical := by
  induction items with
  | nil => simp [CanonicalItems]
  | cons item rest ih => simp [CanonicalItems, ih]

theorem canonical_emit (basePos : Nat) (slice : Slice) :
    (slice.emit codePage record basePos).Canonical := by
  cases slice with
  | text name start size => exact trivial
  | array name start size count =>
      apply canonicalItems_iff.mpr
      intro item inside
      obtain ⟨i, -, rfl⟩ := List.mem_map.mp inside
      exact trivial

theorem canonical_statement (statement : Statement) :
    (statement.emit codePage record).Canonical := by
  cases statement with
  | field slice => exact canonical_emit 0 slice
  | objects name start stride count skip entry =>
      apply canonicalItems_iff.mpr
      intro item inside
      obtain ⟨basePos, -, rfl⟩ := List.mem_map.mp inside
      apply canonical_record
      intro member inside
      obtain ⟨slice, -, rfl⟩ := List.mem_map.mp inside
      exact canonical_emit basePos slice

theorem canonical_data : (dataOf codePage record).Canonical := by
  rcases data_cases codePage record with none | ⟨type, some⟩
  · rw [none]
    exact trivial
  · rw [some]
    apply canonical_record
    intro member inside
    obtain ⟨statement, -, rfl⟩ := List.mem_map.mp inside
    exact canonical_statement statement

theorem canonical_storedRow : (storedRow codePage record).Canonical := by
  apply canonical_record
  intro member inside
  rcases List.mem_pair.mp inside with rfl | rfl
  · exact trivial
  · exact canonical_data

section Converting

variable (converts : Converts codePage)
include converts

theorem unbroken_extract (start length : Nat) :
    UnbrokenText (extractAndConvert codePage record start length) := by
  unfold extractAndConvert convertEncoding
  split
  · exact ⟨[], rfl, by simp⟩
  · obtain ⟨converted, same, unbroken⟩ := converts
      ((extractField record start length).takeWhile (· != 0))
    rwa [same]

theorem unbroken_emit (basePos : Nat) (slice : Slice) :
    (slice.emit codePage record basePos).Unbroken := by
  cases slice with
  | text name start size => exact unbroken_extract converts _ _
  | array name start size count =>
      apply unbrokenItems_iff.mpr
      intro item inside
      obtain ⟨i, -, rfl⟩ := List.mem_map.mp inside
      exact unbroken_extract converts _ _

theorem unbroken_statement {statement : Statement}
    (plain : ∀ name ∈ statement.entryNames, plainName name = true) :
    (statement.emit codePage record).Unbroken := by
  cases statement with
  | field slice => exact unbroken_emit converts 0 slice
  | objects name start stride count skip entry =>
      apply unbrokenItems_iff.mpr
      intro item inside
      obtain ⟨basePos, -, rfl⟩ := List.mem_map.mp inside
      apply unbroken_record
      intro member inside
      obtain ⟨slice, listed, rfl⟩ := List.mem_map.mp inside
      exact ⟨plain _ (List.mem_map_of_mem listed), unbroken_emit converts basePos slice⟩

theorem unbroken_data : (dataOf codePage record).Unbroken := by
  rcases data_cases codePage record with none | ⟨type, some⟩
  · rw [none]
    exact trivial
  · rw [some]
    apply unbroken_record
    intro member inside
    obtain ⟨statement, listed, rfl⟩ := List.mem_map.mp inside
    obtain ⟨plain, entries⟩ := names_plain type statement listed
    exact ⟨plain, unbroken_statement converts entries⟩

theorem unbroken_storedRow (readable : UnbrokenText (typeOf codePage record)) :
    (storedRow codePage record).Unbroken := by
  have named : plainName "type" = true ∧ plainName "data" = true := by decide
  apply unbroken_record
  intro member inside
  rcases List.mem_pair.mp inside with rfl | rfl
  · exact ⟨named.1, readable⟩
  · exact ⟨named.2, unbroken_data converts⟩

end Converting

variable (codePage) in
/-- The parser of the worker returns a row for every record. -/
def recordParser : RecordParser where
  parseRecord record := .ok (some (typeOf codePage record, dataOf codePage record))
  oneLine record type data parsed := by
    cases parsed
    exact oneLine_of_canonical _ canonical_data

theorem recordJson_members (type : Bytes) (data : Json) :
    recordJson type data = .object [(utf8 "data", data), (utf8 "type", .string type)] := by
  rfl

/-- A row is printed unless its type is no text. -/
theorem recordLine?_eq (converts : Converts codePage) :
    recordLine? (recordParser codePage) record =
      if validUtf8 (typeOf codePage record) then some (storedRow codePage record).render
      else none := by
  have text : (storedRow codePage record).isText = validUtf8 (typeOf codePage record) := by
    rw [storedRow, recordJson_members]
    simp [isText, membersText, validUtf8_utf8,
      isText_of_unbroken _ (unbroken_data converts)]
  have line : recordLine? (recordParser codePage) record =
      (storedRow codePage record).dump.toOption := rfl
  rw [line, dump, text]
  split <;> rfl

/-- What stands before the type of a row that has no data. -/
def beforeType : List Char := "\x7b\x22data\x22:null,\x22type\x22:\x22".toList

def afterType : List Char := "\x22\x7d".toList

theorem render_noData (text : List Char) :
    (recordJson (encoded text) .null).render =
      encoded (beforeType ++ escaped text ++ afterType) := by
  have before : encoded beforeType = 123 :: (renderString (utf8 "data") ++
      58 :: (utf8 "null" ++ 44 :: (renderString (utf8 "type") ++ [58, 34]))) :=
    (encoded_toList _).trans (by decide)
  have after : encoded afterType = [34, 125] := (encoded_toList _).trans (by decide)
  rw [encoded_append, encoded_append, encoded_escaped, before, after, recordJson_members]
  simp [render, renderMembers, renderString]

end Written

/-! ## Lines that are cut -/

/-- A line with a string that a separator cuts. -/
def CutLine (line : Bytes) : Prop :=
  ∃ before text after, line = encoded (before ++ escaped text ++ after) ∧
    (∀ char ∈ before, endsLine char = false) ∧ (∃ char ∈ text, isSeparator char = true) ∧
    outside.after (encoded before) = .inside

/-- The first of its fragments ends inside the string. -/
theorem cutLine_fragments {line : Bytes} (cut : CutLine line) :
    ∃ fragment rest, fragments line = encoded fragment :: rest ∧
      outside.after (encoded fragment) = .inside := by
  obtain ⟨before, text, after, rfl, inLine, separated, opened⟩ := cut
  obtain ⟨char, found⟩ := Option.isSome_iff_exists.mp (List.find?_isSome.mpr separated)
  obtain ⟨separator, first, other, rfl, plain⟩ := List.find?_eq_some_iff_append.mp found
  obtain ⟨itself, ends, notReturn⟩ := escapeChar_separator separator
  have here : outside.after (encoded (before ++ escaped first)) = .inside := by
    rw [encoded_append, after_append, opened, inside_escaped]
  have some : before ++ escaped first ≠ [] := by
    intro none
    rw [none] at here
    cases here
  have whole : before ++ escaped (first ++ char :: other) ++ after =
      before ++ escaped first ++ char :: (escaped other ++ after) := by
    simp [Json.escaped, itself]
  have single : splitlines (before ++ escaped first ++ char :: (escaped other ++ after)) =
      (before ++ escaped first) :: splitlines (escaped other ++ after) := by
    refine splitlines_line (inLine_append inLine (escaped_inLine ?_)) ends notReturn
    simpa using plain
  refine ⟨before ++ escaped first,
    ((splitlines (escaped other ++ after)).filter (!·.isEmpty)).map encoded, ?_, here⟩
  rw [fragments_encoded, whole, single]
  simp [some]

/-! ## The lines of records -/

section Lines

variable {codePage : Bytes → Option Bytes} (converts : Converts codePage) {record : Bytes}
include converts

theorem render_isLine (readable : UnbrokenText (typeOf codePage record)) :
    fragments (storedRow codePage record).render = [(storedRow codePage record).render] :=
  (isLine_render _ (unbroken_storedRow converts readable)).fragments (render_ne_nil rfl)

omit converts in
/-- Only a type that is not known has a separator. -/
theorem cutLine_storedRow {record : Bytes} (text : validUtf8 (typeOf codePage record) = true)
    (broken : ¬ UnbrokenText (typeOf codePage record)) :
    CutLine (storedRow codePage record).render := by
  have empty : dataOf codePage record = .null := by
    by_contra some
    apply broken
    unfold dataOf typeOf recordRow at *
    generalize found : parseRecord (parseBasicFields codePage) record = parsed at some ⊢
    have known : parsed.type ≠ .unknown := by
      rintro unknown
      apply some
      rw [← found] at unknown ⊢
      unfold parseRecord at unknown ⊢
      dsimp only at unknown ⊢
      exact if_pos unknown
    have output : resolveRecordTypeForOutput parsed = utf8 parsed.type.name :=
      if_pos (utf8_name_ne known)
    change UnbrokenText (resolveRecordTypeForOutput parsed)
    rw [output]
    exact (isLine_printable (plain_name parsed.type)).unbroken
  obtain ⟨text, same⟩ := validUtf8_iff.mp text
  have chars : typeOf codePage record = encoded text.toList := by rw [same, encoded_toList]
  refine ⟨beforeType, text.toList, afterType, ?_, inLine_of_all (by decide), ?_, by decide⟩
  · rw [storedRow, empty, chars, render_noData]
  · by_contra none
    apply broken
    refine ⟨text.toList, chars, ?_⟩
    simpa using none

theorem recordLine?_fragments (record : Bytes) :
    (∃ line, recordLine? (recordParser codePage) record = some line ∧
      UnbrokenText (typeOf codePage record) ∧ line = (storedRow codePage record).render) ∨
    (∃ line, recordLine? (recordParser codePage) record = some line ∧
      ¬ UnbrokenText (typeOf codePage record) ∧ CutLine line) ∨
    recordLine? (recordParser codePage) record = none ∧
      ¬ UnbrokenText (typeOf codePage record) := by
  rw [recordLine?_eq converts]
  split
  · next text =>
      by_cases readable : UnbrokenText (typeOf codePage record)
      · exact .inl ⟨_, rfl, readable, rfl⟩
      · exact .inr (.inl ⟨_, rfl, readable, cutLine_storedRow text readable⟩)
  · next noText =>
      refine .inr (.inr ⟨rfl, fun readable => noText ?_⟩)
      obtain ⟨text, same, -⟩ := readable
      rw [same]
      exact validUtf8_encoded text

end Lines

/-- What the client makes of the lines of the records. -/
def readRecords (python : PythonStr) (library : PythonLibrary) (codePage : Bytes → Option Bytes)
    (records : List Bytes) : List Json × Option PythonException :=
  rowsOf python library none ((recordLines (recordParser codePage) records).flatMap fragments)

section Reading

variable {library : PythonLibrary} (reads : ReadsJson library.loads) (python : PythonStr)
include reads

theorem loads_render {value : Json} (canonical : value.Canonical) (text : value.isText = true) :
    library.loads value.render = .ok value := by
  apply reads.inverts canonical
  rw [dump, text, if_pos rfl]

theorem readRow_render {value : Json} (canonical : value.Canonical) (text : value.isText = true)
    (unreported : value.member? "error" = none) :
    readRow python library value.render = .ok value := by
  simp only [readRow, loadsLine, loads_render reads canonical text, raising, unreported]

/-- A line that ends inside a string is no document. -/
theorem loadsLine_fragment {fragment : Bytes} (inside : outside.after fragment = .inside)
    (what : Bytes → Bytes) :
    ∃ exception, loadsLine library what fragment = .error exception := by
  cases loaded : library.loads fragment with
  | ok value =>
      have calm := reads.calm loaded
      rw [inside] at calm
      rcases calm with same | same <;> cases same
  | error exception =>
      unfold loadsLine
      rw [loaded]
      split
      · exact ⟨_, rfl⟩
      · exact ⟨_, rfl⟩

theorem rowsOf_fragment {fragment : Bytes} (inside : outside.after fragment = .inside)
    (rest : List Bytes) : ∃ exception,
      rowsOf python library none (fragment :: rest) = ([], some exception) := by
  have some : fragment.isEmpty = false := by
    cases fragment with
    | nil => cases inside
    | cons byte bytes => rfl
  obtain ⟨exception, failed⟩ := loadsLine_fragment reads inside fun message =>
    utf8 "Invalid JSON in data stream: " ++ message ++ utf8 ". Line preview: " ++
      linePreview fragment
  refine ⟨exception, ?_⟩
  have row : readRow python library fragment = .error exception := by
    simp only [readRow, failed]
  simp only [rowsOf, some, row]
  rfl

variable {codePage : Bytes → Option Bytes} (converts : Converts codePage)
include converts

/-- One record more, in front of the others. -/
theorem readRecords_cons (record : Bytes) (records : List Bytes) :
    UnbrokenText (typeOf codePage record) ∧
        readRecords python library codePage (record :: records) =
          (storedRow codePage record :: (readRecords python library codePage records).1,
            (readRecords python library codePage records).2) ∨
      ¬ UnbrokenText (typeOf codePage record) ∧
        ((∃ exception,
            readRecords python library codePage (record :: records) = ([], some exception)) ∨
          readRecords python library codePage (record :: records) =
            readRecords python library codePage records) := by
  have lines : readRecords python library codePage (record :: records) =
      rowsOf python library none
        (((recordLine? (recordParser codePage) record).toList ++
          recordLines (recordParser codePage) records).flatMap fragments) := by
    cases found : recordLine? (recordParser codePage) record <;>
      simp [readRecords, recordLines, found]
  rcases recordLine?_fragments converts record with
    ⟨line, found, readable, rfl⟩ | ⟨line, found, broken, cut⟩ | ⟨none, broken⟩
  · refine .inl ⟨readable, ?_⟩
    have row : readRow python library (storedRow codePage record).render =
        .ok (storedRow codePage record) := by
      apply readRow_render reads python canonical_storedRow
      · exact isText_of_unbroken _ (unbroken_storedRow converts readable)
      · rfl
    have solid : (storedRow codePage record).render.isEmpty = false := by
      have object : (storedRow codePage record).isObject = true := rfl
      simpa using render_ne_nil object
    rw [lines, found, Option.toList_some, List.singleton_append, List.flatMap_cons,
      render_isLine converts readable, List.singleton_append]
    simp only [rowsOf, solid, row]
    rfl
  · refine .inr ⟨broken, .inl ?_⟩
    obtain ⟨fragment, rest, split, inside⟩ := cutLine_fragments cut
    rw [lines, found, Option.toList_some, List.singleton_append, List.flatMap_cons, split,
      List.cons_append]
    exact rowsOf_fragment reads python inside _
  · refine .inr ⟨broken, .inr ?_⟩
    rw [lines, none]
    rfl

theorem readRecords_length (records : List Bytes) :
    (readRecords python library codePage records).1.length ≤ records.length := by
  induction records with
  | nil => exact Nat.le_refl 0
  | cons record records ih =>
      rcases readRecords_cons reads python converts record records with
        ⟨-, more⟩ | ⟨-, ⟨exception, ended⟩ | same⟩
      · rw [more]
        exact Nat.succ_le_succ ih
      · rw [ended]
        exact Nat.zero_le _
      · rw [same]
        exact Nat.le_succ_of_le ih

/-- As many rows as records: each type is a text on one line. -/
theorem readable_of_length {records : List Bytes}
    (all : (readRecords python library codePage records).1.length = records.length) :
    ∀ record ∈ records, UnbrokenText (typeOf codePage record) := by
  induction records with
  | nil => simp
  | cons record records ih =>
      rcases readRecords_cons reads python converts record records with
        ⟨readable, more⟩ | ⟨-, ⟨exception, ended⟩ | same⟩
      · rw [more] at all
        exact List.forall_mem_cons.mpr ⟨readable, ih (Nat.succ_injective all)⟩
      · rw [ended] at all
        cases all
      · have few := readRecords_length reads python converts records
        rw [same, List.length_cons] at all
        omega

/-- All the rows are read exactly when every type is a text on one line. -/
theorem readRecords_iff (records : List Bytes) :
    readRecords python library codePage records = (records.map (storedRow codePage), none) ↔
      ∀ record ∈ records, UnbrokenText (typeOf codePage record) := by
  constructor
  · intro whole
    apply readable_of_length reads python converts
    rw [whole, List.length_map]
  · intro readable
    induction records with
    | nil => simp [readRecords, recordLines, rowsOf]
    | cons record records ih =>
        rw [List.forall_mem_cons] at readable
        rcases readRecords_cons reads python converts record records with
          ⟨-, more⟩ | ⟨broken, -⟩
        · rw [more, ih readable.2]
          rfl
        · exact absurd readable.1 broken

end Reading

/-! ## The metadata line -/

/-- The metadata of a stored query. -/
def metadataOf (result : JVQueryResult) : Json :=
  .record [("read_count", .integer result.readCount),
    ("download_count", .integer result.downloadCount),
    ("last_file_timestamp", Json.text result.lastFileTimestamp)]

section Metadata

variable {result : JVQueryResult}

theorem metaJson_success (succeeded : result.success = true) :
    metaJson result = .record [("meta", metadataOf result)] := by
  rw [metaJson, if_pos succeeded]
  rfl

theorem metadataOf_members : metadataOf result =
    .object [(utf8 "download_count", .integer result.downloadCount),
      (utf8 "last_file_timestamp", .text result.lastFileTimestamp),
      (utf8 "read_count", .integer result.readCount)] := by
  rfl

/-- Up to the first count. -/
def metaOpening : List Char := "\x7b\x22meta\x22:\x7b\x22download_count\x22:".toList

def timestampLabel : List Char := ",\x22last_file_timestamp\x22:\x22".toList

def readCountLabel : List Char := "\x22,\x22read_count\x22:".toList

def metaClosing : List Char := "\x7d\x7d".toList

variable (result) in
def beforeTimestamp : List Char :=
  metaOpening ++ decimalText result.downloadCount ++ timestampLabel

theorem encoded_metaOpening : encoded metaOpening =
    123 :: (renderString (utf8 "meta") ++
      58 :: 123 :: (renderString (utf8 "download_count") ++ [58])) :=
  (encoded_toList _).trans (by decide)

theorem encoded_timestampLabel : encoded timestampLabel =
    44 :: (renderString (utf8 "last_file_timestamp") ++ [58, 34]) :=
  (encoded_toList _).trans (by decide)

theorem render_metaJson (succeeded : result.success = true) :
    (metaJson result).render =
      encoded (beforeTimestamp result ++ escaped result.lastFileTimestamp.toList ++
        (readCountLabel ++ decimalText result.readCount ++ metaClosing)) := by
  have label : encoded readCountLabel = 34 :: 44 :: (renderString (utf8 "read_count") ++ [58]) :=
    (encoded_toList _).trans (by decide)
  have last : encoded metaClosing = [125, 125] := (encoded_toList _).trans (by decide)
  have object : metaJson result = .object [(utf8 "meta", metadataOf result)] := by
    rw [metaJson_success succeeded]
    rfl
  rw [object, metadataOf_members]
  simp only [beforeTimestamp, encoded_append, encoded_escaped, encoded_decimalText,
    encoded_toList, encoded_metaOpening, encoded_timestampLabel, label, last]
  simp [render, renderMembers, Json.text, renderString]

theorem inside_beforeTimestamp : outside.after (encoded (beforeTimestamp result)) = .inside := by
  have first : outside.after (encoded metaOpening) = .outside := by
    rw [encoded_metaOpening]
    decide
  have second : outside.after (encoded timestampLabel) = .inside := by
    rw [encoded_timestampLabel]
    decide
  rw [beforeTimestamp, encoded_append, encoded_append, encoded_decimalText, after_append,
    after_append, first, (after_plain (plain_decimal _)).1, second]

theorem beforeTimestamp_inLine : ∀ char ∈ beforeTimestamp result, endsLine char = false :=
  inLine_append (inLine_append (inLine_of_all (by decide)) (decimalText_inLine _))
    (inLine_of_all (by decide))

variable (succeeded : result.success = true)
include succeeded

theorem canonical_metaJson : (metaJson result).Canonical := by
  rw [metaJson_success succeeded]
  apply canonical_record
  simp only [List.forall_mem_singleton]
  apply canonical_record
  simp [Canonical]

theorem unbroken_metaJson (readable : UnbrokenText (utf8 result.lastFileTimestamp)) :
    (metaJson result).Unbroken := by
  have named : plainName "meta" = true ∧ plainName "read_count" = true ∧
      plainName "download_count" = true ∧ plainName "last_file_timestamp" = true := by decide
  rw [metaJson_success succeeded]
  apply unbroken_record
  simp only [List.forall_mem_singleton]
  refine ⟨named.1, unbroken_record ?_⟩
  simp only [List.forall_mem_cons, List.not_mem_nil, false_implies, implies_true, and_true]
  exact ⟨⟨named.2.1, trivial⟩, ⟨named.2.2.1, trivial⟩, ⟨named.2.2.2, readable⟩⟩

theorem cutLine_metaJson (broken : ¬ UnbrokenText (utf8 result.lastFileTimestamp)) :
    CutLine (metaJson result).render := by
  refine ⟨beforeTimestamp result, result.lastFileTimestamp.toList, _, render_metaJson succeeded,
    beforeTimestamp_inLine, ?_, inside_beforeTimestamp⟩
  by_contra none
  apply broken
  refine ⟨result.lastFileTimestamp.toList, (encoded_toList _).symm, ?_⟩
  simpa using none

end Metadata

/-! ## What is read -/

/-- A text with a quote is not blank. -/
theorem solid_of_quote {text : List Char} (quote : 34 ∈ encoded text) : pythonStrip text ≠ [] := by
  intro blank
  obtain ⟨before, after, whole, early, late⟩ := pythonStrip_cut text
  rw [blank, List.append_nil] at whole
  have spaces : ∀ char ∈ text, isPythonSpace char = true := by
    rw [whole]
    intro char inside
    exact (List.mem_append.mp inside).elim (early char) (late char)
  have neutral := punctuation_of_spaces spaces 34 quote
  cases neutral

/-- There is a quote before the inside of a string. -/
theorem quote_of_inside {text : Bytes} (inside : outside.after text = .inside) : 34 ∈ text := by
  by_contra none
  have stays (quoting : Quoting) (start : quoting = .outside ∨ quoting = .broken) (text : Bytes)
      (none : 34 ∉ text) : quoting.after text = .outside ∨ quoting.after text = .broken := by
    induction text generalizing quoting with
    | nil => exact start
    | cons byte text ih =>
        rw [List.mem_cons, not_or] at none
        apply ih _ _ none.2
        rcases start with rfl | rfl
        · simp only [Quoting.step, Ne.symm none.1, if_false]
          split <;> simp
        · exact .inr rfl
  rcases stays .outside (.inl rfl) text none with same | same <;>
    · rw [inside] at same
      cases same

/-- The first line that is not blank is taken for the metadata. -/
theorem readMetadataLine_text {text : List Char} (quote : 34 ∈ encoded text) (lines : List Bytes) :
    readMetadataLine none (encoded text :: lines) = .ok (encoded text, lines) := by
  rw [readMetadataLine, characters_encoded, if_neg (solid_of_quote quote)]

section Responses

variable {library : PythonLibrary} (reads : ReadsJson library.loads) (python : PythonStr)
include reads

theorem readOpening_meta {result : JVQueryResult} (succeeded : result.success = true)
    (readable : UnbrokenText (utf8 result.lastFileTimestamp)) (lines : List Bytes) :
    readOpening python library { status := 200, lines := (metaJson result).render :: lines } =
      .ok { metadata := metadataOf result, lines, failure := none } := by
  have quote : 34 ∈ encoded (beforeTimestamp result ++ escaped result.lastFileTimestamp.toList ++
      (readCountLabel ++ decimalText result.readCount ++ metaClosing)) := by
    rw [encoded_append, encoded_append]
    exact List.mem_append_left _ (List.mem_append_left _ (quote_of_inside inside_beforeTimestamp))
  have line := readMetadataLine_text quote lines
  rw [← render_metaJson succeeded] at line
  have loaded (what : Bytes → Bytes) :
      loadsLine library what (metaJson result).render = .ok (metaJson result) := by
    rw [loadsLine, loads_render reads (canonical_metaJson succeeded)
      (isText_of_unbroken _ (unbroken_metaJson succeeded readable))]
    rfl
  simp only [readOpening, line]
  change (loadsLine library _ (metaJson result).render >>= _) = _
  rw [loaded, metaJson_success succeeded]
  rfl

theorem readOpening_cut {text : List Char} (inside : outside.after (encoded text) = .inside)
    (lines : List Bytes) :
    ∃ exception,
      readOpening python library { status := 200, lines := encoded text :: lines } =
        .error exception := by
  have line := readMetadataLine_text (quote_of_inside inside) lines
  obtain ⟨exception, failed⟩ := loadsLine_fragment reads inside
    (utf8 "Invalid JSON in metadata line: " ++ ·)
  refine ⟨exception, ?_⟩
  simp only [readOpening, line]
  change (loadsLine library _ (encoded text) >>= _) = _
  rw [failed]
  rfl

section Rows

variable {codePage : Bytes → Option Bytes} (converts : Converts codePage)
include converts

omit reads in
theorem texts_recordLines (records : List Bytes) :
    ∀ line ∈ recordLines (recordParser codePage) records, ∃ text, line = encoded text := by
  intro line inside
  obtain ⟨record, -, found⟩ := List.mem_filterMap.mp inside
  rcases recordLine?_fragments converts record with
    ⟨_, same, readable, rfl⟩ | ⟨_, same, -, cut⟩ | ⟨none, -⟩
  · rw [found] at same
    cases same
    obtain ⟨text, shape, -⟩ := isLine_render _ (unbroken_storedRow converts readable)
    exact ⟨text, shape⟩
  · rw [found] at same
    cases same
    obtain ⟨before, text, after, shape, -⟩ := cut
    exact ⟨_, shape⟩
  · rw [found] at none
    cases none

section Response

variable {result : JVQueryResult} (succeeded : result.success = true) {records : List Bytes}
  {body : Bytes}
  (written : solidLines newline body =
    (metaJson result).render :: recordLines (recordParser codePage) records)
include succeeded written

omit reads in
/-- Only the fragments of the lines that the worker writes count. -/
theorem received_fragments : received python library { status := 200, lines := textLines body } =
    received python library
      { status := 200
        lines := fragments (metaJson result).render ++
          (recordLines (recordParser codePage) records).flatMap fragments } := by
  have texts : ∀ line ∈ solidLines newline body, ∃ text, line = encoded text := by
    rw [written, List.forall_mem_cons]
    exact ⟨⟨_, render_metaJson succeeded⟩, texts_recordLines converts records⟩
  have split := fragments_body texts
  rw [written, List.flatMap_cons] at split
  rw [← split]
  exact (received_solid _).symm

/-- With a timestamp on one line the rows are read. -/
theorem received_readable (readable : UnbrokenText (utf8 result.lastFileTimestamp)) :
    (received python library { status := 200, lines := textLines body }).1 =
      .ok { metadata := metadataOf result
            rows := (readRecords python library codePage records).1
            failure := (readRecords python library codePage records).2 } := by
  have whole : fragments (metaJson result).render = [(metaJson result).render] :=
    (isLine_render _ (unbroken_metaJson succeeded readable)).fragments
      (render_ne_nil (metaJson_isObject result))
  have opened := readOpening_meta reads python succeeded readable
    ((recordLines (recordParser codePage) records).flatMap fragments)
  rw [received_fragments python converts succeeded written, whole, List.singleton_append]
  simp only [received, fetchAndParseStream, opened]
  rfl

theorem received_unreadable (broken : ¬ UnbrokenText (utf8 result.lastFileTimestamp)) :
    ∃ exception, (received python library { status := 200, lines := textLines body }).1 =
      .error exception := by
  obtain ⟨fragment, rest, cut, inside⟩ := cutLine_fragments (cutLine_metaJson succeeded broken)
  obtain ⟨exception, failed⟩ := readOpening_cut reads python inside
    (rest ++ (recordLines (recordParser codePage) records).flatMap fragments)
  refine ⟨convertException exception, ?_⟩
  rw [received_fragments python converts succeeded written, cut, List.cons_append]
  simp only [received, fetchAndParseStream, failed]
  rfl

/-- What the client makes of a response of metadata and records. -/
theorem received_iff :
    (received python library { status := 200, lines := textLines body }).1 =
        .ok { metadata := metadataOf result, rows := records.map (storedRow codePage) } ↔
      UnbrokenText (utf8 result.lastFileTimestamp) ∧
        ∀ record ∈ records, UnbrokenText (typeOf codePage record) := by
  by_cases readable : UnbrokenText (utf8 result.lastFileTimestamp)
  · rw [received_readable reads python converts succeeded written readable,
      ← readRecords_iff reads python converts records]
    constructor
    · intro same
      injection same with same
      injection same with _ rows failure
      exact ⟨readable, Prod.ext rows failure⟩
    · intro read
      rw [read.2]
  · obtain ⟨exception, failed⟩ :=
      received_unreadable reads python converts succeeded written readable
    rw [failed]
    exact iff_of_false (fun impossible => by cases impossible) fun both => readable both.1

end Response

end Rows

end Responses

section EndToEnd

variable {κ ν : Type}

/-- Over every run that comes to its end: the client gets the metadata and one row for each
record that JV-Link returned and the query asked for, in their order, exactly when no type
of a record and no timestamp has bytes that are no text, or a character that ends a line. -/
theorem stored_rows_iff (library : PythonLibrary) (reads : ReadsJson library.loads)
    (python : PythonStr) (codePage : Bytes → Option Bytes) (converts : Converts codePage)
    (jv : JVLink κ) (connection : Connection ν) (query : StoredQuery) (fuel : Nat)
    (world : World κ Unit) (network : ν) {reason : StreamEnd} {after : World κ (StoredStream ν)}
    (done : provideStored connection jv (recordParser codePage) query fuel (serving world network) =
      .ok (some reason) after) (normal : reason.isNormal = true) :
    ∃ result records, result.success = true ∧
      query.selected after.files = query.selected world.files ++ records ∧
      solidLines newline after.client.out.flatten =
        (metaJson result).render :: recordLines (recordParser codePage) records ∧
      ((received python library
          { status := 200, lines := textLines after.client.out.flatten }).1 =
          .ok { metadata := metadataOf result, rows := records.map (storedRow codePage) } ↔
        UnbrokenText (utf8 result.lastFileTimestamp) ∧
          ∀ record ∈ records, UnbrokenText (typeOf codePage record)) := by
  obtain ⟨records, read, lines, streamed, whole⟩ := provideStored_delivers done normal
  obtain rfl : solidLines newline after.client.out.flatten = lines := whole.1
  obtain ⟨first, ⟨result, succeeded, printed⟩, written⟩ := streamed
  have line : first = (metaJson result).render := by
    unfold IsLineOf dump at printed
    split at printed
    · exact (Except.ok.inj printed).symm
    · cases printed
  rw [line] at written
  exact ⟨result, records, succeeded, read, written,
    received_iff reads python converts succeeded written⟩

end EndToEnd

/-- A code page of nothing but printable ASCII. -/
def printablePage (text : Bytes) : Option Bytes :=
  some (text.map fun byte => if isPrintable byte then byte else 63)

theorem printablePage_printable (text : Bytes) :
    (text.map fun byte => if isPrintable byte then byte else 63).all isPrintable = true := by
  rw [List.all_map, List.all_eq_true]
  intro byte _
  change isPrintable (if isPrintable byte then byte else 63) = true
  split
  · assumption
  · decide

theorem printablePage_converts : Converts printablePage := fun text =>
  ⟨_, rfl, (isLine_printable (printablePage_printable text)).unbroken⟩

def horseReply : GetsReply where
  result := .long 2
  safeArray := .bytes (utf8 "HY")

/-- A stream of one record. -/
def horseRun : EStateM.Result Exception (World (List GetsReply) (StoredStream Unit))
    (Option StreamEnd) :=
  provideStored openConnection scriptedJVLink (recordParser printablePage) raceQuery 5
    (serving (initializedWorld [horseReply]) ())

theorem stored_rows_iff_horse : ∃ result records, result.success = true ∧
    raceQuery.selected (finalState horseRun).files = records ∧
    ((received plainText plainLibrary
        { status := 200, lines := textLines (finalState horseRun).client.out.flatten }).1 =
        .ok { metadata := metadataOf result, rows := records.map (storedRow printablePage) } ↔
      UnbrokenText (utf8 result.lastFileTimestamp) ∧
        ∀ record ∈ records, UnbrokenText (typeOf printablePage record)) := by
  have returned : returned? horseRun = some (some .endOfFiles) := by decide +kernel
  have done : horseRun = .ok (some .endOfFiles) (finalState horseRun) := ok_of_returned returned
  have normal : StreamEnd.isNormal .endOfFiles = true := rfl
  have nothing : raceQuery.selected (initializedWorld [horseReply]).files = [] := rfl
  generalize finalState horseRun = after at done ⊢
  obtain ⟨result, records, succeeded, read, -, same⟩ := stored_rows_iff plainLibrary
    plainJson_reads plainText printablePage printablePage_converts scriptedJVLink openConnection
    raceQuery 5 (initializedWorld [horseReply]) () done normal
  rw [nothing] at read
  exact ⟨result, records, succeeded, read, same⟩

end JVLinkServer.Client
