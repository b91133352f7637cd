import JVLinkServer.Client.RaceIdKeys
import JVLinkServer.Client.SchemaDecoding

namespace JVLinkServer.Client

open Json JVLinkServer.Records

/-! # Records about a race and their keys

After its header a record about a race has a key of sixteen bytes, of which the domain record
gets its identifiers.
-/

/-- The types of which a record has a key and becomes one with an identifier. -/
def namesRace (type : RecordType) : Bool :=
  type != .wf && ((decoderOf type).prologue == .race || (decoderOf type).prologue == .announcedRace)

theorem race_prologue {type : RecordType} (names : namesRace type = true) :
    (decoderOf type).prologue = .race ∨ (decoderOf type).prologue = .announcedRace := by
  simp only [namesRace, Bool.and_eq_true, Bool.or_eq_true, beq_iff_eq] at names
  exact names.2

/-- The bytes of the key as characters. -/
def keyOf (rawData : Bytes) : List Char :=
  (slice 11 16 rawData).map fun byte => Char.ofNat byte.toNat

def keyTexts (codePage : Bytes → Option Bytes) (rawData : Bytes) : KeyTexts where
  year := extractAndConvert codePage rawData 11 4
  date := extractAndConvert codePage rawData 15 4
  code := extractAndConvert codePage rawData 19 2
  round := extractAndConvert codePage rawData 21 2
  day := extractAndConvert codePage rawData 23 2
  number := extractAndConvert codePage rawData 25 2

theorem key_statements (type : RecordType) (names : namesRace type = true) :
    [.text "meet_year" 11 4, .text "meet_date" 15 4, .text "racecourse_code" 19 2,
      .text "meet_round" 21 2, .text "meet_day" 23 2, .text "race_number" 25 2].all
        (statementsOf type).contains = true := by
  revert names
  cases type <;> decide +kernel

section Key

variable {codePage : Bytes → Option Bytes} (page : CodePage932 codePage) {rawData : Bytes}
  {type : RecordType}
include page

theorem hasKey (names : namesRace type = true) :
    HasKey (emitted codePage rawData type) (keyTexts codePage rawData) := by
  have table := List.all_eq_true.mp (key_statements type names)
  have found {name : String} {start size : Nat}
      (listed : .text name start size ∈ statementsOf type) :
      (emitted codePage rawData type).member? name =
        some (.string (extractAndConvert codePage rawData start size)) := by
    rw [← Nat.zero_add start]
    exact member?_emitFields (statements_distinct type) listed
  have inside {statement : Statement} (listed : statement ∈ _) :
      statement ∈ statementsOf type := List.contains_iff_mem.mp (table statement listed)
  have short (start size : Nat) := length_characters_extract page rawData start size
  exact {
    year := found (inside (by simp))
    date := found (inside (by simp))
    code := found (inside (by simp))
    round := found (inside (by simp))
    day := found (inside (by simp))
    number := found (inside (by simp))
    yearFits := short 11 4
    dateFits := short 15 4
    codeFits := short 19 2
    roundFits := short 21 2
    dayFits := short 23 2
    numberFits := short 25 2 }

theorem characters_printable {start size : Nat} (fits : start + size ≤ rawData.length)
    (printable : (slice start size rawData).all isPrintable = true) :
    characters (extractAndConvert codePage rawData start size) =
      (slice start size rawData).map fun byte => Char.ofNat byte.toNat := by
  obtain ⟨pieces, coded, same, chars⟩ := extract_coded page rawData start size
  have field : (extractField rawData start size).takeWhile (· != 0) = slice start size rawData := by
    rw [extractField, if_neg (by omega), List.takeWhile_eq_self_iff]
    intro byte inside
    have own := List.all_eq_true.mp printable byte inside
    cases zero : byte != 0 with
    | true => rfl
    | false =>
        rw [bne_eq_false_iff_eq.mp zero] at own
        exact absurd own (by decide)
  rw [field] at same
  rw [chars, pieces_printable coded (same ▸ printable), same]

omit page in
theorem key_slices (rawData : Bytes) :
    slice 11 4 rawData ++ slice 15 4 rawData ++ slice 19 2 rawData ++
      (slice 21 2 rawData ++ slice 23 2 rawData ++ slice 25 2 rawData) = slice 11 16 rawData := by
  rw [slice_append 11 4 4, slice_append 11 8 2, slice_append 21 2 2, slice_append 21 4 2,
    slice_append 11 10 6]

theorem joined_keyTexts (long : 27 ≤ rawData.length)
    (printable : (slice 11 16 rawData).all isPrintable = true) :
    (keyTexts codePage rawData).joined = keyOf rawData := by
  have whole := key_slices rawData
  rw [← whole] at printable
  simp only [List.all_append, Bool.and_eq_true] at printable
  obtain ⟨⟨⟨year, date⟩, code⟩, ⟨round, day⟩, number⟩ := printable
  simp only [KeyTexts.joined, keyTexts]
  rw [characters_printable page (by omega) year, characters_printable page (by omega) date,
    characters_printable page (by omega) code, characters_printable page (by omega) round,
    characters_printable page (by omega) day, characters_printable page (by omega) number, keyOf,
    ← whole]
  simp only [List.map_append]

omit page in
theorem key_long {key : RaceKey} (written : key.text = keyOf rawData) :
    27 ≤ rawData.length ∧ key.text.length = 16 := by
  have wide : 16 ≤ key.text.length := by
    have year := le_length_zeroPadded 4 key.year
    have month := le_length_zeroPadded 2 key.month
    have dayOfMonth := le_length_zeroPadded 2 key.dayOfMonth
    have round := le_length_zeroPadded 2 key.round
    have day := le_length_zeroPadded 2 key.day
    have number := le_length_zeroPadded 2 key.number
    have two := key.two
    simp only [RaceKey.text, RaceKey.date, List.length_append]
    omega
  rw [written, keyOf, List.length_map, slice, List.length_take, List.length_drop] at wide ⊢
  omega

omit page in
/-- A record that ends before its key does has no number of a race. -/
theorem raceId_short {python : PythonStr} {context : RaceContext}
    (fields : HasKey (emitted codePage rawData type) (keyTexts codePage rawData))
    (built : buildContext python (emitted codePage rawData type) = .ok context)
    (short : rawData.length < 27) : context.raceId = none := by
  obtain ⟨monthDay, -, same⟩ := bind_ok_iff.mp built
  obtain rfl := Except.ok.inj same
  rw [Option.eq_none_iff_forall_ne_some]
  intro id is
  obtain ⟨_, _, _, _, _, _, number, -, -, -, -, -, -, numbers, -⟩ := buildRaceId_eq_some_iff.mp is
  have empty : extractAndConvert codePage rawData 25 2 = [] := by
    rw [extractAndConvert, extractField, if_pos (by omega)]
    rfl
  rw [fields.number, keyTexts, empty] at numbers
  cases numbers

end Key

section Record

variable {python : PythonStr} (capitals : KeepsCapitals python)
  {codePage : Bytes → Option Bytes} (page : CodePage932 codePage) (includeRaw : Bool)
include capitals page

/-- The identifier of the race is the key of the record exactly when the key is written as its
numbers are, and then the realtime queries take both identifiers as they are when they name a
place on a real date. -/
theorem race_id_iff {rawData : Bytes} {type : RecordType}
    (is : (parseRecord (parseBasicFields codePage) rawData).type = type)
    (names : namesRace type = true) (printable : (slice 11 16 rawData).all isPrintable = true) :
    ∃ raw attributes,
      decodeRow python includeRaw (storedRow codePage rawData) =
        .ok { type := utf8 type.name, record := .known (utf8 type.name) attributes, raw } ∧
      (("race_id", .field (.str (some (keyOf rawData)))) ∈ attributes ↔
        ∃ key : RaceKey, key.text = keyOf rawData) ∧
      ∀ key : RaceKey, key.text = keyOf rawData →
        ("race_id_short", .field (.str (some
          ((keyOf rawData).take 10 ++ (keyOf rawData).drop 14)))) ∈ attributes ∧
        ∀ upper : StrUpper,
          (Accepted upper (keyOf rawData) ↔ key.Real ∧ 0 ≤ key.round ∧ 0 ≤ key.day) ∧
          (Accepted upper ((keyOf rawData).take 10 ++ (keyOf rawData).drop 14) ↔ key.Real) := by
  have known : type ≠ .unknown := by
    rintro rfl
    exact absurd names (by decide)
  obtain ⟨raw, attributes, decoded, row⟩ := decodeRow_attributes capitals page includeRaw is known
  obtain ⟨context, built, all⟩ := race_attributes decoded (race_prologue names)
  have fields : HasKey (emitted codePage rawData type) (keyTexts codePage rawData) :=
    hasKey page names
  have identifier : ("race_id", .field (.str context.raceId)) ∈ attributes :=
    all _ (by simp [contextKwargs])
  have shortIdentifier : ("race_id_short", .field (.str context.raceIdShort)) ∈ attributes :=
    all _ (by simp [contextKwargs])
  have only : ("race_id", .field (.str (some (keyOf rawData)))) ∈ attributes ↔
      context.raceId = some (keyOf rawData) := by
    constructor
    · intro member
      have same := attribute_unique decoded identifier member
      simpa using same
    · intro same
      rwa [same] at identifier
  refine ⟨raw, attributes, row, ?_, ?_⟩
  · rw [only]
    by_cases long : 27 ≤ rawData.length
    · rw [← joined_keyTexts page long printable]
      exact raceId_iff fields built
    · rw [raceId_short fields built (by omega)]
      refine iff_of_false (by simp) ?_
      rintro ⟨key, written⟩
      exact long (key_long written).1
  · intro key written
    obtain ⟨long, whole⟩ := key_long written
    have cut := RaceKey.short_eq whole
    rw [written] at cut
    have joined := written.trans (joined_keyTexts page long printable).symm
    rw [← cut, ← written]
    rw [(context_of_key fields built joined).2] at shortIdentifier
    exact ⟨shortIdentifier, fun upper =>
      ⟨RaceKey.accepted_text_iff whole, RaceKey.accepted_short_iff whole⟩⟩

end Record

/-- A record that ends after its key. -/
def cupRecord : Bytes := utf8 "RA7202607202026080105031109"

def cupKey : RaceKey where
  year := 2026
  month := 8
  dayOfMonth := 1
  code := ['0', '5']
  round := 3
  day := 11
  number := 9
  monthFits := by decide
  dayFits := by decide
  two := rfl
  solid := by decide

theorem race_id_iff_cup : ∃ raw attributes,
    decodeRow plainText true (storedRow printablePage cupRecord) =
      .ok { type := utf8 "RA", record := .known (utf8 "RA") attributes, raw } ∧
    ("race_id", .field (.str (some "2026080105031109".toList))) ∈ attributes ∧
    ("race_id_short", .field (.str (some "202608010509".toList))) ∈ attributes := by
  have capitals : KeepsCapitals plainText := fun _ _ => rfl
  obtain ⟨raw, attributes, row, identifier, others⟩ :=
    race_id_iff capitals printablePage_coded true
      (by decide +kernel : (parseRecord (parseBasicFields printablePage) cupRecord).type = .ra)
      (by decide) (by decide +kernel)
  have text : keyOf cupRecord = "2026080105031109".toList := by decide
  have written : cupKey.text = keyOf cupRecord := by
    rw [text]
    decide
  rw [text] at identifier others
  exact ⟨raw, attributes, row, identifier.mpr ⟨cupKey, written.trans text⟩,
    (others cupKey (written.trans text)).1⟩

end JVLinkServer.Client
