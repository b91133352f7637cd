import JVLinkServer.Client.StoredValidation

namespace JVLinkServer.Client

/-! # What a stored query accepts

The accepted dataspecs are the concatenations of distinct codes, and what has been
normalized is accepted again, as it is.
-/

/-! ## Letters and digits -/

/-- `[A-Z0-9]` -/
def isKeyChar (char : Char) : Bool :=
  ('A' ≤ char && char ≤ 'Z') || ('0' ≤ char && char ≤ '9')

theorem isKeyChar_code {char : Char} (key : isKeyChar char = true) :
    48 ≤ char.toNat ∧ char.toNat ≤ 90 ∧ (char.toNat ≤ 57 ∨ 65 ≤ char.toNat) := by
  simp only [isKeyChar, Bool.or_eq_true, Bool.and_eq_true, decide_eq_true_eq, Char.le_def,
    UInt32.le_iff_toNat_le] at key
  change 65 ≤ char.toNat ∧ char.toNat ≤ 90 ∨ 48 ≤ char.toNat ∧ char.toNat ≤ 57 at key
  omega

theorem isPythonSpace_keyChar {char : Char} (key : isKeyChar char = true) :
    isPythonSpace char = false := by
  have code := isKeyChar_code key
  simp [isPythonSpace]
  omega

theorem toUpper_keyChar {char : Char} (key : isKeyChar char = true) : char.toUpper = char := by
  have code := isKeyChar_code key
  have notLower : ¬ ('a'.val ≤ char.val ∧ char.val ≤ 'z'.val) := by
    rintro ⟨low, -⟩
    have low : 97 ≤ char.toNat := UInt32.le_iff_toNat_le.mp low
    omega
  rw [Char.toUpper, dif_neg notLower]

/-- Letters and digits are clean already. -/
theorem clean_keyChars (python : StrUpper) {text : List Char}
    (keys : ∀ char ∈ text, isKeyChar char = true) : python.clean text = text := by
  have strip : pythonStrip text = text :=
    pythonStrip_of_solid fun char inside => isPythonSpace_keyChar (keys char inside)
  rw [StrUpper.clean, strip]
  induction text with
  | nil => rfl
  | cons char text ih =>
      have key := keys char List.mem_cons_self
      have rest : ∀ other ∈ text, isKeyChar other = true :=
        fun other inside => keys other (List.mem_cons_of_mem _ inside)
      have upper := python.ascii char (by have := isKeyChar_code key; omega)
      rw [List.flatMap_cons, upper, toUpper_keyChar key,
        ih rest (pythonStrip_of_solid fun other inside => isPythonSpace_keyChar (rest other inside))]
      rfl

/-! ## Codes -/

/-- The text that the codes make up. -/
def codes (specs : List JVDataSpec) : List Char := specs.flatMap (·.value.toList)

theorem chunksOfFour_codes (specs : List JVDataSpec) :
    chunksOfFour (codes specs) = specs.map (·.value.toList) := by
  induction specs with
  | nil => rfl
  | cons spec specs ih =>
      have four := spec.value_length
      rw [codes, List.flatMap_cons, List.map_cons]
      match code : spec.value.toList, four with
      | [first, second, third, fourth], _ =>
          rw [List.cons_append, List.cons_append, List.cons_append, List.cons_append,
            List.nil_append, chunksOfFour]
          rw [codes] at ih
          rw [ih]

theorem flatten_chunksOfFour {text : List Char} (whole : text.length % 4 = 0) :
    (chunksOfFour text).flatten = text := by
  fun_induction chunksOfFour text with
  | case1 first second third fourth rest ih =>
      have fewer : rest.length % 4 = 0 := by
        simp only [List.length_cons] at whole
        omega
      rw [List.flatten_cons, ih fewer]
      rfl
  | case2 text short =>
      match text with
      | [] => rfl
      | [_] | [_, _] | [_, _, _] => simp at whole
      | _ :: _ :: _ :: _ :: _ => exact absurd rfl (short _ _ _ _ _)

theorem length_codes (specs : List JVDataSpec) : (codes specs).length = 4 * specs.length := by
  induction specs with
  | nil => rfl
  | cons spec specs ih =>
      rw [codes] at ih ⊢
      rw [List.flatMap_cons, List.length_append, ih, spec.value_length, List.length_cons]
      omega

section Loop

variable {chunks : ParsedChunks} {text : List Char} {spec : JVDataSpec}

theorem add_unknown (code : JVDataSpec.ofValue? text = none) :
    (chunks.add text).unknown = chunks.unknown ++ [String.ofList text] := by
  simp [ParsedChunks.add, code]

theorem add_seen (code : JVDataSpec.ofValue? text = some spec) (seen : spec ∈ chunks.parsed) :
    chunks.add text = { chunks with duplicates := chunks.duplicates ++ [spec.value] } := by
  simp [ParsedChunks.add, code, seen]

variable (chunks) in
theorem add_new (code : JVDataSpec.ofValue? text = some spec) (new : spec ∉ chunks.parsed) :
    (chunks.add text).parsed = chunks.parsed ++ [spec] ∧
      (chunks.add text).duplicates = chunks.duplicates ∧
      (chunks.add text).unknown = chunks.unknown := by
  simp [ParsedChunks.add, code, new]

end Loop

theorem isKeyChar_codes {specs : List JVDataSpec} :
    ∀ char ∈ codes specs, isKeyChar char = true := by
  have all : ∀ spec : JVDataSpec, spec.value.toList.all isKeyChar = true := by
    intro spec
    cases spec <;> decide
  intro char inside
  obtain ⟨spec, -, member⟩ := List.mem_flatMap.mp inside
  exact List.all_eq_true.mp (all spec) char member

theorem code_injective : Function.Injective fun spec : JVDataSpec => spec.value.toList := by
  intro first second same
  exact JVDataSpec.value_injective (String.toList_inj.mp same)

theorem codes_injective {first second : List JVDataSpec} (same : codes first = codes second) :
    first = second := by
  have chunks := chunksOfFour_codes first
  rw [same, chunksOfFour_codes] at chunks
  exact List.map_injective_iff.mpr code_injective chunks.symm

/-- The loop over the codes: nothing is unknown or seen twice exactly when they are codes that
are all different. -/
theorem add_chunks_iff (chunks : ParsedChunks) (texts : List (List Char))
    (specs : List JVDataSpec) :
    ((texts.foldl ParsedChunks.add chunks).unknown = [] ∧
      (texts.foldl ParsedChunks.add chunks).duplicates = [] ∧
      (texts.foldl ParsedChunks.add chunks).parsed = specs) ↔
    chunks.unknown = [] ∧ chunks.duplicates = [] ∧
      ∃ more, texts = more.map (·.value.toList) ∧ (chunks.parsed ++ more).Nodup ∧
        specs = chunks.parsed ++ more := by
  induction texts generalizing chunks with
  | nil =>
      constructor
      · rintro ⟨unknown, duplicates, rfl⟩
        exact ⟨unknown, duplicates, [], rfl, by simpa using chunks.distinct, by simp⟩
      · rintro ⟨unknown, duplicates, more, none, -, rfl⟩
        obtain rfl := List.map_eq_nil_iff.mp none.symm
        exact ⟨unknown, duplicates, (List.append_nil _).symm⟩
  | cons text texts ih =>
      rw [List.foldl_cons, ih]
      cases code : JVDataSpec.ofValue? text with
      | none =>
          constructor
          · rintro ⟨unknown, -⟩
            rw [add_unknown code] at unknown
            simp at unknown
          · rintro ⟨-, -, more, same, -⟩
            cases more with
            | nil => cases same
            | cons spec more =>
                obtain ⟨first, -⟩ := List.cons.inj same
                rw [JVDataSpec.ofValue?_eq_some.mpr first] at code
                cases code
      | some spec =>
          have first := JVDataSpec.ofValue?_eq_some.mp code
          by_cases seen : spec ∈ chunks.parsed
          · rw [add_seen code seen]
            constructor
            · rintro ⟨-, duplicates, -⟩
              simp at duplicates
            · rintro ⟨-, -, more, same, distinct, -⟩
              cases more with
              | nil => cases same
              | cons other more =>
                  have head := JVDataSpec.ofValue?_eq_some.mpr (List.cons.inj same).1
                  obtain rfl := Option.some.inj (code.symm.trans head)
                  exact absurd rfl
                    ((List.nodup_append.mp distinct).2.2 spec seen spec List.mem_cons_self)
          · obtain ⟨parsed, duplicates, unknown⟩ := add_new chunks code seen
            rw [parsed, duplicates, unknown]
            constructor
            · rintro ⟨unknown, duplicates, more, rfl, distinct, rfl⟩
              refine ⟨unknown, duplicates, spec :: more, by rw [first]; rfl, ?_, ?_⟩
              · simpa using distinct
              · simp
            · rintro ⟨unknown, duplicates, more, same, distinct, rfl⟩
              cases more with
              | nil => cases same
              | cons other more =>
                  have head := JVDataSpec.ofValue?_eq_some.mpr (List.cons.inj same).1
                  obtain rfl := Option.some.inj (code.symm.trans head)
                  obtain rfl := (List.cons.inj same).2
                  exact ⟨unknown, duplicates, more, rfl, by simpa using distinct, by simp⟩

variable {python : StrUpper}

/-- What is parsed are the codes of the chunks, which are all different. -/
theorem parse_ok_iff {dataspec : DataspecInput} {specs : DistinctSpecs} :
    parseStoredDataspecsArg python dataspec = .ok specs ↔
      dataspecChunks python dataspec = .ok (specs.val.map (·.value.toList)) := by
  unfold parseStoredDataspecsArg
  cases chunks : dataspecChunks python dataspec with
  | error error => simp [bind, Except.bind]
  | ok texts =>
      have loop := add_chunks_iff {} texts specs.val
      have whole : (texts.foldl ParsedChunks.add {}).unknown = [] ∧
          (texts.foldl ParsedChunks.add {}).duplicates = [] ∧
          (texts.foldl ParsedChunks.add {}).parsed = specs.val ↔
          texts = specs.val.map (·.value.toList) := by
        rw [loop]
        constructor
        · rintro ⟨-, -, more, rfl, -, same⟩
          rw [same]
          rfl
        · rintro rfl
          exact ⟨rfl, rfl, specs.val, rfl, specs.property, rfl⟩
      rw [Except.ok.injEq, ← whole]
      simp only [bind, Except.bind, Bool.not_eq_true', pure, Except.pure]
      generalize texts.foldl ParsedChunks.add {} = after
      cases unknown : after.unknown with
      | cons text rest => simp [throw, throwThe, MonadExceptOf.throw]
      | nil =>
          cases duplicates : after.duplicates with
          | cons text rest => simp [throw, throwThe, MonadExceptOf.throw]
          | nil => simp [Subtype.ext_iff]

/-- A text stands for the codes that it consists of. -/
theorem parse_text_iff {text : String} {specs : DistinctSpecs} :
    parseStoredDataspecsArg python (.text text) = .ok specs ↔
      specs.val ≠ [] ∧ python.clean text.toList = codes specs.val := by
  rw [parse_ok_iff, dataspecChunks]
  by_cases empty : (python.clean text.toList).isEmpty = true
  · rw [if_pos empty]
    rw [List.isEmpty_iff] at empty
    constructor
    · intro accepted
      cases accepted
    · rintro ⟨some, same⟩
      rw [empty] at same
      have length := length_codes specs.val
      rw [← same, List.length_nil] at length
      exact absurd (List.length_eq_zero_iff.mp (by omega)) some
  · rw [if_neg empty]
    by_cases whole : (python.clean text.toList).length % 4 = 0
    · rw [if_neg (by simpa using whole), Except.ok.injEq]
      constructor
      · intro same
        have flat := flatten_chunksOfFour whole
        rw [same] at flat
        refine ⟨?_, flat.symm⟩
        intro none
        rw [none] at flat
        exact empty (by rw [← flat]; rfl)
      · rintro ⟨-, same⟩
        rw [same, chunksOfFour_codes]
    · rw [if_pos (by simpa using whole)]
      constructor
      · intro accepted
        cases accepted
      · rintro ⟨-, same⟩
        rw [same, length_codes] at whole
        omega

/-- The code that an item of a sequence is, if it is one. -/
def singleCode? (python : StrUpper) : DataspecItem → Option JVDataSpec
  | .spec spec => some spec
  | .text item => JVDataSpec.ofValue? (python.clean item.toList)
  | .other => none

theorem itemChunk_iff {item : DataspecItem} {spec : JVDataSpec} :
    itemChunk python item = .ok spec.value.toList ↔ singleCode? python item = some spec := by
  cases item with
  | spec other =>
      simp only [itemChunk, singleCode?, Except.ok.injEq, Option.some.injEq, String.toList_inj]
      exact JVDataSpec.value_injective.eq_iff
  | other => simp [itemChunk, singleCode?]
  | text item =>
      rw [singleCode?, JVDataSpec.ofValue?_eq_some, itemChunk]
      generalize python.clean item.toList = cleaned
      have length := spec.value_length
      split
      · rename_i empty
        rw [List.isEmpty_iff] at empty
        subst empty
        constructor
        · intro accepted
          cases accepted
        · intro same
          rw [← same] at length
          cases length
      · split
        · rename_i other
          constructor
          · intro accepted
            cases accepted
          · intro same
            exact absurd (same ▸ length) other
        · rw [Except.ok.injEq]

theorem itemChunks_iff {items : List DataspecItem} {specs : List JVDataSpec} :
    items.mapM (itemChunk python) = .ok (specs.map (·.value.toList)) ↔
      items.map (singleCode? python) = specs.map some := by
  induction items generalizing specs with
  | nil => cases specs <;> simp [pure, Except.pure]
  | cons item items ih =>
      rw [List.mapM_cons]
      cases specs with
      | nil =>
          cases chunk : itemChunk python item <;>
            cases chunks : items.mapM (itemChunk python) <;>
            simp [bind, Except.bind, pure, Except.pure]
      | cons spec specs =>
          rw [List.map_cons, List.map_cons, List.map_cons, List.cons.injEq, ← itemChunk_iff, ← ih]
          cases chunk : itemChunk python item <;>
            cases chunks : items.mapM (itemChunk python) <;>
            simp [bind, Except.bind, pure, Except.pure]

/-- A sequence stands for what its codes make up. -/
theorem parse_sequence_iff {items : List DataspecItem} {specs : DistinctSpecs} :
    parseStoredDataspecsArg python (.sequence items) = .ok specs ↔
      ∃ single, items.map (singleCode? python) = single.map some ∧
        parseStoredDataspecsArg python (.text (String.ofList (codes single))) = .ok specs := by
  have chunks : parseStoredDataspecsArg python (.sequence items) = .ok specs ↔
      items ≠ [] ∧ items.map (singleCode? python) = specs.val.map some := by
    rw [parse_ok_iff, dataspecChunks, ← itemChunks_iff]
    cases items <;> simp
  rw [chunks]
  have clean : ∀ single, python.clean (String.ofList (codes single)).toList = codes single := by
    intro single
    rw [String.toList_ofList, clean_keyChars python isKeyChar_codes]
  constructor
  · rintro ⟨some, single⟩
    refine ⟨specs.val, single, parse_text_iff.mpr ⟨?_, clean specs.val⟩⟩
    intro none
    rw [none, List.map_nil] at single
    exact some (List.map_eq_nil_iff.mp single)
  · rintro ⟨single, items, parsed⟩
    obtain ⟨some, same⟩ := parse_text_iff.mp parsed
    rw [clean] at same
    obtain rfl := codes_injective same
    refine ⟨?_, items⟩
    rintro rfl
    exact some (List.map_eq_nil_iff.mp items.symm)

theorem parse_spec_iff {spec : JVDataSpec} {specs : DistinctSpecs} :
    parseStoredDataspecsArg python (.spec spec) = .ok specs ↔ specs.val = [spec] := by
  rw [parse_ok_iff, dataspecChunks, Except.ok.injEq]
  constructor
  · intro same
    have one : [spec].map (·.value.toList) = specs.val.map (·.value.toList) := same
    exact (List.map_injective_iff.mpr code_injective one).symm
  · intro same
    rw [same]
    rfl

theorem parse_ne_nil {dataspec : DataspecInput} {specs : DistinctSpecs}
    (parsed : parseStoredDataspecsArg python dataspec = .ok specs) : specs.val ≠ [] := by
  cases dataspec with
  | text text => exact (parse_text_iff.mp parsed).1
  | spec spec =>
      rw [parse_spec_iff.mp parsed]
      exact List.cons_ne_nil _ _
  | sequence items =>
      obtain ⟨single, -, text⟩ := parse_sequence_iff.mp parsed
      exact (parse_text_iff.mp text).1
  | other => cases parsed

/-! ## Dates -/

theorem datetimeArg_ok_iff {argName : String} {endOfDay : Bool} {value : Argument String}
    {normalized : String} :
    datetimeArg argName endOfDay value = .ok normalized ↔
      ∃ text, value = .value text ∧
        normalizeDatetimeArg argName text.toList endOfDay = .ok normalized.toList := by
  cases value with
  | other => simp [datetimeArg]
  | value text =>
      cases normal : normalizeDatetimeArg argName text.toList endOfDay with
      | error message => simp [datetimeArg, normal]
      | ok chars =>
          simp only [datetimeArg, normal, Except.ok.injEq, Argument.value.injEq, exists_eq_left']
          constructor
          · rintro rfl
            exact String.toList_ofList.symm
          · rintro rfl
            exact String.ofList_toList

theorem datetimeArg_again {argName : String} {endOfDay : Bool} {value : Argument String}
    {normalized : String} (accepted : datetimeArg argName endOfDay value = .ok normalized) :
    datetimeArg argName endOfDay (.value normalized) = .ok normalized := by
  obtain ⟨text, -, normal⟩ := datetimeArg_ok_iff.mp accepted
  exact datetimeArg_ok_iff.mpr ⟨normalized, rfl, normalizeDatetimeArg_again normal _ _⟩

theorem datetimeArg_truthy {argName : String} {endOfDay : Bool} {value : Argument String}
    {normalized : String} (accepted : datetimeArg argName endOfDay value = .ok normalized) :
    truthy (.value normalized) = true := by
  obtain ⟨text, -, normal⟩ := datetimeArg_ok_iff.mp accepted
  have length := normalizeDatetimeArg_length normal
  rw [truthy, Bool.not_eq_true', Bool.eq_false_iff]
  intro empty
  rw [String.isEmpty_iff.mp empty] at length
  cases length

theorem normalizeToDate_ok_iff {specs : List JVDataSpec} {fromDatetime : String}
    {toDate : Option (Argument String)} {normalized : Option String} :
    normalizeToDate specs fromDatetime toDate = .ok normalized ↔
      toDate.filter truthy = none ∧ normalized = none ∨
        ∃ given text, toDate.filter truthy = some given ∧
          (specs.map JVDataSpec.value).filter JVDataSpec.noEndDate.contains = [] ∧
          datetimeArg "to_date" true given = .ok text ∧ ¬ text < fromDatetime ∧
          normalized = some text := by
  unfold normalizeToDate
  cases toDate.filter truthy with
  | none =>
      constructor
      · intro accepted
        cases accepted
        exact .inl ⟨rfl, rfl⟩
      · rintro (⟨-, rfl⟩ | ⟨_, _, given, -⟩)
        · rfl
        · cases given
  | some given =>
      constructor
      · intro accepted
        dsimp only at accepted
        split at accepted
        · cases accepted
        · rename_i supported
          cases date : datetimeArg "to_date" true given with
          | error error =>
              rw [date] at accepted
              cases accepted
          | ok text =>
              rw [date] at accepted
              dsimp only at accepted
              split at accepted
              · cases accepted
              · rename_i ordered
                cases accepted
                exact .inr ⟨given, text, rfl, by simpa using supported, date, ordered, rfl⟩
      · rintro (⟨given, -⟩ | ⟨_, text, given, supported, date, ordered, rfl⟩)
        · cases given
        · cases given
          simp only [supported, date, ordered, List.isEmpty_nil, Bool.not_true,
            Bool.false_eq_true, if_false]

theorem normalizeToDate_again {specs : List JVDataSpec} {fromDatetime : String}
    {toDate : Option (Argument String)} {normalized : Option String}
    (accepted : normalizeToDate specs fromDatetime toDate = .ok normalized) :
    normalizeToDate specs fromDatetime (normalized.map .value) = .ok normalized := by
  rcases normalizeToDate_ok_iff.mp accepted with
    ⟨-, rfl⟩ | ⟨given, text, -, supported, date, ordered, rfl⟩
  · rfl
  · have some : (Option.some (Argument.value text)).filter truthy = some (.value text) := by
      rw [Option.filter_some, if_pos (datetimeArg_truthy date)]
    exact normalizeToDate_ok_iff.mpr
      (.inr ⟨.value text, text, some, supported, datetimeArg_again date, ordered, rfl⟩)

/-! ## Record types -/

section FromKeys

variable {α : Type} [DecidableEq α]

theorem foldl_fromKeys (seen values : List α) (distinct : (seen ++ values).Nodup) :
    values.foldl (fun seen value => if value ∈ seen then seen else seen ++ [value]) seen =
      seen ++ values := by
  induction values generalizing seen with
  | nil => exact (List.append_nil seen).symm
  | cons value values ih =>
      have new : value ∉ seen := fun inside =>
        (List.nodup_append.mp distinct).2.2 value inside value List.mem_cons_self rfl
      rw [List.foldl_cons, if_neg new, ih _ (by simpa using distinct), List.append_assoc]
      rfl

theorem foldl_fromKeys_mem (seen values : List α) (distinct : seen.Nodup) :
    (values.foldl (fun seen value => if value ∈ seen then seen else seen ++ [value]) seen).Nodup ∧
      ∀ value, value ∈ values.foldl
          (fun seen value => if value ∈ seen then seen else seen ++ [value]) seen ↔
        value ∈ seen ∨ value ∈ values := by
  induction values generalizing seen with
  | nil => exact ⟨distinct, fun value => by simp⟩
  | cons value values ih =>
      rw [List.foldl_cons]
      by_cases inside : value ∈ seen
      · rw [if_pos inside]
        obtain ⟨nodup, members⟩ := ih seen distinct
        refine ⟨nodup, fun other => ?_⟩
        rw [members, List.mem_cons]
        grind
      · rw [if_neg inside]
        obtain ⟨nodup, members⟩ := ih (seen ++ [value]) (by grind)
        refine ⟨nodup, fun other => ?_⟩
        rw [members, List.mem_append, List.mem_singleton, List.mem_cons, or_assoc]

theorem fromKeys_fromKeys (values : List α) : fromKeys (fromKeys values) = fromKeys values :=
  foldl_fromKeys [] (fromKeys values) (foldl_fromKeys_mem [] values List.nodup_nil).1

theorem mem_fromKeys {values : List α} {value : α} : value ∈ fromKeys values ↔ value ∈ values := by
  have members := (foldl_fromKeys_mem [] values List.nodup_nil).2 value
  simpa [fromKeys] using members

end FromKeys

/-- The names of the records consist of letters and digits. -/
theorem isKeyChar_records {spec : JVDataSpec} {recordType : String}
    (record : recordType ∈ spec.records) :
    recordType ≠ "" ∧ ∀ char ∈ recordType.toList, isKeyChar char = true := by
  have all : ∀ spec : JVDataSpec,
      spec.records.all (fun name => name != "" && name.toList.all isKeyChar) = true := by
    intro spec
    cases spec <;> decide
  have names := List.all_eq_true.mp (all spec) recordType record
  rw [Bool.and_eq_true, bne_iff_ne] at names
  exact ⟨names.1, fun char inside => List.all_eq_true.mp names.2 char inside⟩

theorem cleanRecordType_again {specs : List JVDataSpec} {recordType : String}
    (allowed : recordType ∈ specs.flatMap JVDataSpec.records) :
    cleanRecordType python (.value recordType) = .ok recordType := by
  obtain ⟨spec, -, record⟩ := List.mem_flatMap.mp allowed
  obtain ⟨some, keys⟩ := isKeyChar_records record
  have nonempty : ¬ recordType.toList.isEmpty = true := by
    rw [List.isEmpty_iff, ← String.toList_empty, String.toList_inj]
    exact some
  rw [cleanRecordType, clean_keyChars python keys, if_neg nonempty, String.ofList_toList]

theorem sortedSet_eq_nil {texts : List String} : sortedSet texts = [] ↔ texts = [] := by
  rw [← List.length_eq_zero_iff, sortedSet, List.length_mergeSort, List.length_eq_zero_iff]
  cases texts with
  | nil => simp
  | cons text texts => simp [List.eraseDups_cons]

theorem mapM_ok_eq_nil {α β ε : Type} {f : α → Except ε β} {values : List α}
    (none : values.mapM f = .ok []) : values = [] := by
  cases values with
  | nil => rfl
  | cons value values =>
      rw [List.mapM_cons] at none
      cases first : f value <;> cases rest : values.mapM f <;>
        simp [first, rest, bind, Except.bind, pure, Except.pure] at none

theorem normalizeRecordTypesArg_ok {specs : List JVDataSpec}
    {recordTypes : List (Argument String)} {normalized : Option (List String)} :
    normalizeRecordTypesArg python specs (some recordTypes) = .ok normalized ↔
      recordTypes ≠ [] ∧ ∃ cleaned, recordTypes.mapM (cleanRecordType python) = .ok cleaned ∧
        (∀ recordType ∈ cleaned, recordType ∈ specs.flatMap JVDataSpec.records) ∧
        normalized = some (fromKeys cleaned) := by
  unfold normalizeRecordTypesArg
  by_cases none : recordTypes = []
  · simp [none, bind, Except.bind, throw, throwThe, MonadExceptOf.throw]
  · by_cases allowed : specs.flatMap JVDataSpec.records = []
    · have impossible : ∀ cleaned, recordTypes.mapM (cleanRecordType python) = .ok cleaned →
          ¬ ∀ recordType ∈ cleaned, recordType ∈ specs.flatMap JVDataSpec.records := by
        intro cleaned mapped inside
        rw [allowed] at inside
        obtain rfl := List.eq_nil_iff_forall_not_mem.mpr
          fun recordType member => List.not_mem_nil (inside recordType member)
        exact none (mapM_ok_eq_nil mapped)
      constructor
      · simp [none, allowed, bind, Except.bind, throw, throwThe, MonadExceptOf.throw]
      · rintro ⟨-, cleaned, mapped, inside, -⟩
        exact absurd inside (impossible cleaned mapped)
    · cases mapped : recordTypes.mapM (cleanRecordType python) with
      | error error => simp [none, allowed, mapped, bind, Except.bind]
      | ok texts =>
          have invalid : sortedSet (texts.filter
              (!(specs.flatMap JVDataSpec.records).contains ·)) = [] ↔
              ∀ recordType ∈ texts, recordType ∈ specs.flatMap JVDataSpec.records := by
            rw [sortedSet_eq_nil, List.filter_eq_nil_iff]
            simp only [Bool.not_eq_true', Bool.not_eq_false, List.contains_iff_mem]
          simp only [ne_eq, none, not_false_eq_true, true_and, Except.ok.injEq, exists_eq_left',
            ← invalid]
          by_cases valid : sortedSet (texts.filter
              (!(specs.flatMap JVDataSpec.records).contains ·)) = []
          · simp only [none, allowed, valid, mapped, bind, Except.bind, List.isEmpty_iff,
              List.isEmpty_nil, Bool.not_true, Bool.false_eq_true, if_false, pure, Except.pure,
              Except.ok.injEq, true_and]
            exact eq_comm
          · simp only [none, allowed, mapped, bind, Except.bind, List.isEmpty_iff, if_false,
              throw, throwThe, MonadExceptOf.throw, Bool.not_eq_true', Bool.eq_false_iff, ne_eq,
              valid, not_false_eq_true, if_true, false_and, reduceCtorEq]

theorem normalizeRecordTypesArg_again {specs : List JVDataSpec}
    {recordTypes : Option (List (Argument String))} {normalized : Option (List String)}
    (accepted : normalizeRecordTypesArg python specs recordTypes = .ok normalized) :
    normalizeRecordTypesArg python specs (normalized.map (·.map .value)) = .ok normalized := by
  cases recordTypes with
  | none =>
      cases accepted
      rfl
  | some recordTypes =>
      obtain ⟨some, cleaned, mapped, allowed, rfl⟩ := normalizeRecordTypesArg_ok.mp accepted
      rw [Option.map_some, normalizeRecordTypesArg_ok]
      have inside : ∀ recordType ∈ fromKeys cleaned,
          recordType ∈ specs.flatMap JVDataSpec.records :=
        fun recordType member => allowed recordType (mem_fromKeys.mp member)
      refine ⟨?_, fromKeys cleaned, ?_, inside, by rw [fromKeys_fromKeys]⟩
      · intro none
        rw [List.map_eq_nil_iff] at none
        have empty : cleaned = [] := List.eq_nil_iff_forall_not_mem.mpr fun recordType member =>
          List.not_mem_nil (none ▸ mem_fromKeys.mpr member)
        exact some (mapM_ok_eq_nil (empty ▸ mapped))
      · generalize fromKeys cleaned = names at inside
        induction names with
        | nil => rfl
        | cons name names ih =>
            rw [List.map_cons, List.mapM_cons,
              cleanRecordType_again (inside name List.mem_cons_self),
              ih fun other member => inside other (List.mem_cons_of_mem _ member)]
            rfl

/-! ## The whole input -/

theorem validate_ok_iff {dataspec : DataspecInput} {fromDatetime : Argument String}
    {option : Argument Int} {toDate : Option (Argument String)}
    {recordTypes : Option (List (Argument String))} {input : StoredQueryInput} :
    validateStoredQueryInput python dataspec fromDatetime option toDate recordTypes = .ok input ↔
      ∃ number specs, option = .value number ∧
        parseStoredDataspecsArg python dataspec = .ok specs ∧
        checkDataspecs specs.val number = .ok () ∧
        datetimeArg "from_datetime" false fromDatetime = .ok input.fromDatetime ∧
        normalizeToDate specs.val input.fromDatetime toDate = .ok input.toDate ∧
        normalizeRecordTypesArg python specs.val recordTypes = .ok input.recordTypes ∧
        input.dataspec = joined "" (specs.val.map JVDataSpec.value) ∧
        input.dataspecs = specs.val.map JVDataSpec.value := by
  constructor
  · intro accepted
    cases option with
    | other typeName truthy => cases accepted
    | value number =>
        simp only [validateStoredQueryInput, bind, Except.bind] at accepted
        cases parsed : parseStoredDataspecsArg python dataspec with
        | error error => simp [parsed] at accepted
        | ok specs =>
            cases checked : checkDataspecs specs.val number with
            | error error => simp [parsed, checked] at accepted
            | ok _ =>
                cases fromDate : datetimeArg "from_datetime" false fromDatetime with
                | error error => simp [parsed, checked, fromDate] at accepted
                | ok fromNormalized =>
                    cases toNormal : normalizeToDate specs.val fromNormalized toDate with
                    | error error => simp [parsed, checked, fromDate, toNormal] at accepted
                    | ok toNormalized =>
                        cases types : normalizeRecordTypesArg python specs.val recordTypes with
                        | error error =>
                            simp [parsed, checked, fromDate, toNormal, types] at accepted
                        | ok recordTypes =>
                            simp only [parsed, checked, fromDate, toNormal, types, pure,
                              Except.pure, Except.ok.injEq] at accepted
                            subst accepted
                            exact ⟨number, specs, rfl, rfl, checked, rfl, toNormal, types, rfl,
                              rfl⟩
  · rintro ⟨number, specs, rfl, parsed, checked, fromDate, toNormal, types, dataspec, dataspecs⟩
    obtain ⟨_, _, _, _, _, _⟩ := input
    dsimp only at dataspec dataspecs
    subst dataspec
    subst dataspecs
    simp only [validateStoredQueryInput, parsed, checked, fromDate, toNormal, types, bind,
      Except.bind, pure, Except.pure]

theorem toList_joined (specs : List JVDataSpec) :
    (joined "" (specs.map JVDataSpec.value)).toList = codes specs := by
  induction specs with
  | nil => rfl
  | cons spec specs ih =>
      cases specs with
      | nil => simp [joined, codes]
      | cons other specs =>
          rw [joined] at ih ⊢
          rw [List.map_cons, List.map_cons, String.intercalate_cons_cons]
          simp only [String.toList_append, codes, List.flatMap_cons] at ih ⊢
          rw [List.map_cons] at ih
          rw [ih]
          simp

/-- What a query has validated, given again. -/
def revalidate (python : StrUpper) (option : Argument Int) (input : StoredQueryInput) :
    Validated StoredQueryInput :=
  validateStoredQueryInput python (.text input.dataspec) (.value input.fromDatetime) option
    (input.toDate.map .value) (input.recordTypes.map (·.map .value))

theorem revalidate_again {dataspec : DataspecInput} {fromDatetime : Argument String}
    {option : Argument Int} {toDate : Option (Argument String)}
    {recordTypes : Option (List (Argument String))} {input : StoredQueryInput}
    (accepted : validateStoredQueryInput python dataspec fromDatetime option toDate recordTypes =
      .ok input) :
    revalidate python option input = .ok input := by
  obtain ⟨number, specs, same, parsed, checked, fromDate, toDate, types, dataspec, dataspecs⟩ :=
    validate_ok_iff.mp accepted
  refine validate_ok_iff.mpr ⟨number, specs, same, ?_, checked, datetimeArg_again fromDate,
    normalizeToDate_again toDate, normalizeRecordTypesArg_again types, dataspec, dataspecs⟩
  refine parse_text_iff.mpr ⟨parse_ne_nil parsed, ?_⟩
  rw [dataspec, toList_joined, clean_keyChars python isKeyChar_codes]

/-- Exactly the concatenations of distinct codes are dataspecs, a sequence means what its
codes make up, and a validated input is a fixed point of the validation. -/
theorem stored_validation_exact (python : StrUpper) :
    (∀ (text : String) (specs : DistinctSpecs),
      parseStoredDataspecsArg python (.text text) = .ok specs ↔
        specs.val ≠ [] ∧ python.clean text.toList = codes specs.val) ∧
    (∀ (spec : JVDataSpec) (specs : DistinctSpecs),
      parseStoredDataspecsArg python (.spec spec) = .ok specs ↔ specs.val = [spec]) ∧
    (∀ (items : List DataspecItem) (specs : DistinctSpecs),
      parseStoredDataspecsArg python (.sequence items) = .ok specs ↔
        ∃ single, items.map (singleCode? python) = single.map some ∧
          parseStoredDataspecsArg python (.text (String.ofList (codes single))) = .ok specs) ∧
    (∀ (dataspec : DataspecInput) (fromDatetime : Argument String) (option : Argument Int)
        (toDate : Option (Argument String)) (recordTypes : Option (List (Argument String)))
        (input : StoredQueryInput),
      validateStoredQueryInput python dataspec fromDatetime option toDate recordTypes =
        .ok input → revalidate python option input = .ok input) := by
  refine ⟨?_, ?_, ?_, ?_⟩
  · intro text specs
    exact parse_text_iff
  · intro spec specs
    exact parse_spec_iff
  · intro items specs
    exact parse_sequence_iff
  · intro dataspec fromDatetime option toDate recordTypes input accepted
    exact revalidate_again accepted

end JVLinkServer.Client
