import JVLinkServer.Records.SchemaAgreement

namespace JVLinkServer.Records

/-! # What a record is read from

The fields of a record lie one after the other between its type and its line end.  What is
emitted depends on their bytes only, and from texts that the code page tells apart the bytes
can be told.
-/

/-- Where a slice is, from the start of its record or entry. -/
def Slice.extent : Slice → Extent
  | .text _ start size => { start, size }
  | .array _ start size count => { start, size := count * size }

def Statement.extent : Statement → Extent
  | .field slice => slice.extent
  | .objects _ start stride count _ _ => { start, size := count * stride }

def Skip.size : Skip → Nat
  | .never => 0
  | .spaces size | .text size _ => size

/-- An entry is filled by its slices. -/
def Statement.filled : Statement → Bool
  | .field _ => true
  | .objects _ _ stride _ skip entry =>
      Extent.ascending 0 stride (entry.map Slice.extent) &&
        (Extent.gaps 0 stride (entry.map Slice.extent)).isEmpty && skip.size ≤ stride

def extents (type : RecordType) : List Extent := (statementsOf type).map Statement.extent

/-- The line end of a record is not read. -/
def fieldsEnd (type : RecordType) : Nat := (schemaOf type).recordLength - 2

/-- The bytes that are in no field. -/
def reserved : RecordType → List Extent
  | .hn => [⟨21, 8⟩, ⟨39, 1⟩]
  | .hr => [⟨36, 1⟩, ⟨45, 1⟩, ⟨54, 1⟩, ⟨405, 48⟩]
  | .ks => [⟨75, 34⟩]
  | .se => [⟨228, 60⟩, ⟨295, 1⟩, ⟨381, 6⟩]
  | .um => [⟨179, 19⟩]
  | .wc => [⟨36, 1⟩]
  | .wf => [⟨19, 2⟩, ⟨61, 6⟩]
  | _ => []

theorem extents_checked (type : RecordType) (known : type ≠ .unknown) :
    Extent.ascending 2 (fieldsEnd type) (extents type) = true ∧
      Extent.gaps 2 (fieldsEnd type) (extents type) = reserved type := by
  cases type with
  | unknown => contradiction
  | _ => decide +kernel

theorem entries_filled (type : RecordType) :
    ∀ statement ∈ statementsOf type, statement.filled = true := by
  cases type <;> decide +kernel

section Reading

variable {codePage : Bytes → Option Bytes} {first second : Bytes}

/-! ## Nothing else is read -/

theorem extractAndConvert_congr {start size : Nat} (length : first.length = second.length)
    (agree : AgreeOn first second ⟨start, size⟩) :
    extractAndConvert codePage first start size = extractAndConvert codePage second start size := by
  rw [extractAndConvert, extractAndConvert, extractField, extractField, length,
    slice_eq_iff.mpr agree]

theorem emit_congr {basePos : Nat} {slice : Slice} (length : first.length = second.length)
    (agree : AgreeOn first second (slice.extent.shift basePos)) :
    slice.emit codePage first basePos = slice.emit codePage second basePos := by
  cases slice with
  | text name start size => exact congrArg Json.string (extractAndConvert_congr length agree)
  | array name start size count =>
      apply congrArg Json.array
      apply List.map_congr_left
      intro i inside
      apply congrArg Json.string
      apply extractAndConvert_congr length
      apply AgreeOn.mono agree
      · exact Nat.le_add_right _ _
      · exact repeated_within _ _ (List.mem_range.mp inside)

theorem leavesOut_congr {basePos : Nat} {skip : Skip} (length : first.length = second.length)
    (agree : AgreeOn first second ⟨basePos, skip.size⟩) :
    skip.leavesOut codePage first basePos = skip.leavesOut codePage second basePos := by
  cases skip with
  | never => rfl
  | spaces size | text size value =>
      have same : extractAndConvert codePage first basePos size =
          extractAndConvert codePage second basePos size := extractAndConvert_congr length agree
      simp only [Skip.leavesOut, same]

/-- What a statement emits depends on its own bytes. -/
theorem statement_emit_congr {statement : Statement} (filled : statement.filled = true)
    (length : first.length = second.length) (agree : AgreeOn first second statement.extent) :
    statement.emit codePage first = statement.emit codePage second := by
  cases statement with
  | field slice =>
      apply emit_congr length
      cases slice <;> simpa [Extent.shift, Slice.extent, Statement.extent] using agree
  | objects name start stride count skip entry =>
      simp only [Statement.filled, Bool.and_eq_true, decide_eq_true_eq] at filled
      obtain ⟨⟨ordered, -⟩, fits⟩ := filled
      have inside := (within_of_ascending ordered).2
      have places : ∀ basePos ∈ (List.range count).map (fun i => start + i * stride),
          ∀ extent : Extent, extent.stop ≤ stride →
            AgreeOn first second (extent.shift basePos) := by
        intro basePos place extent ends
        obtain ⟨i, bound, rfl⟩ := List.mem_map.mp place
        apply AgreeOn.mono agree
        · change start ≤ start + i * stride + extent.start
          omega
        · have last := repeated_within start stride (List.mem_range.mp bound)
          change start + i * stride + extent.start + extent.size ≤ start + count * stride
          change extent.start + extent.size ≤ stride at ends
          omega
      have kept : Statement.kept codePage first start stride count skip =
          Statement.kept codePage second start stride count skip := by
        apply List.filter_congr
        intro basePos place
        rw [leavesOut_congr length]
        simpa [Extent.shift] using places basePos place ⟨0, skip.size⟩
          (by simpa [Extent.stop] using fits)
      simp only [Statement.emit, kept]
      apply congrArg Json.array
      apply List.map_congr_left
      intro basePos keeps
      apply congrArg Json.record
      apply List.map_congr_left
      intro slice member
      rw [emit_congr length]
      exact places basePos (List.mem_of_mem_filter keeps) _
        (inside _ (List.mem_map_of_mem member)).2

/-! ## Nothing is lost -/

end Reading

/-- The places of the texts that a slice emits. -/
def Slice.leaves (basePos : Nat) : Slice → List Extent
  | .text _ start size => [⟨basePos + start, size⟩]
  | .array _ start size count => (List.range count).map fun i => ⟨basePos + start + i * size, size⟩

def Statement.leaves : Statement → List Extent
  | .field slice => slice.leaves 0
  | .objects _ start stride count _ entry =>
      (List.range count).flatMap fun i =>
        entry.flatMap fun slice => slice.leaves (start + i * stride)

/-- Different texts of the same length, from a set of them, are converted differently. -/
def Distinguishes (codePage : Bytes → Option Bytes) (valid : Bytes → Prop) : Prop :=
  ∀ first second, valid first → valid second → first.length = second.length →
    convertEncoding codePage first = convertEncoding codePage second → first = second

/-- A record of the type, with all of its bytes and entries and valid texts in its fields. -/
structure Readable (codePage : Bytes → Option Bytes) (valid : Bytes → Prop) (type : RecordType)
    (rawData : Bytes) : Prop where
  is : (parseRecord (parseBasicFields codePage) rawData).type = type
  long : fieldsEnd type ≤ rawData.length
  valid : ∀ statement ∈ statementsOf type, ∀ leaf ∈ statement.leaves,
    valid (slice leaf.start leaf.size rawData)
  whole : ∀ statement ∈ statementsOf type, statement.LeavesOut codePage rawData .never

section Lossless

variable {codePage : Bytes → Option Bytes} {valid : Bytes → Prop} {first second : Bytes}

theorem agree_of_text (distinguishes : Distinguishes codePage valid) {start size : Nat}
    (firstFits : start + size ≤ first.length) (secondFits : start + size ≤ second.length)
    (firstValid : valid (slice start size first)) (secondValid : valid (slice start size second))
    (same : extractAndConvert codePage first start size =
      extractAndConvert codePage second start size) :
    AgreeOn first second ⟨start, size⟩ := by
  apply slice_eq_iff.mp
  apply distinguishes _ _ firstValid secondValid
  · rw [length_slice firstFits, length_slice secondFits]
  · simpa only [extractAndConvert, extractField, if_neg (Nat.not_lt.mpr firstFits),
      if_neg (Nat.not_lt.mpr secondFits)] using same

theorem agree_of_emit (distinguishes : Distinguishes codePage valid) {slice : Slice} {basePos : Nat}
    (firstFits : basePos + slice.extent.stop ≤ first.length)
    (secondFits : basePos + slice.extent.stop ≤ second.length)
    (firstValid : ∀ leaf ∈ slice.leaves basePos,
      valid (JVLinkServer.slice leaf.start leaf.size first))
    (secondValid : ∀ leaf ∈ slice.leaves basePos,
      valid (JVLinkServer.slice leaf.start leaf.size second))
    (same : slice.emit codePage first basePos = slice.emit codePage second basePos) :
    AgreeOn first second (slice.extent.shift basePos) := by
  cases slice with
  | text name start size =>
      simp only [Slice.extent, Extent.stop] at firstFits secondFits
      simp only [Slice.leaves, List.forall_mem_singleton] at firstValid secondValid
      have firstFits : basePos + start + size ≤ first.length := by omega
      have secondFits : basePos + start + size ≤ second.length := by omega
      exact agree_of_text distinguishes firstFits secondFits firstValid secondValid
        (Json.string.inj same)
  | array name start size count =>
      simp only [Slice.extent, Extent.stop] at firstFits secondFits
      apply agree_repeated
      intro i inside
      have last := repeated_within (basePos + start) size inside
      have member : (⟨basePos + start + i * size, size⟩ : Extent) ∈
          (List.range count).map fun i => (⟨basePos + start + i * size, size⟩ : Extent) :=
        List.mem_map.mpr ⟨i, List.mem_range.mpr inside, rfl⟩
      have firstFits : basePos + start + i * size + size ≤ first.length := by omega
      have secondFits : basePos + start + i * size + size ≤ second.length := by omega
      apply agree_of_text distinguishes firstFits secondFits (firstValid _ member)
        (secondValid _ member)
      have texts := List.map_inj_left.mp (Json.array.inj same) i (List.mem_range.mpr inside)
      exact Json.string.inj texts

theorem agree_of_entries (distinguishes : Distinguishes codePage valid) {entry : List Slice}
    {basePos stride : Nat} (ordered : Extent.ascending 0 stride (entry.map Slice.extent) = true)
    (gapless : Extent.gaps 0 stride (entry.map Slice.extent) = [])
    (distinct : (entry.map Slice.name).Nodup)
    (firstFits : basePos + stride ≤ first.length) (secondFits : basePos + stride ≤ second.length)
    (firstValid : ∀ slice ∈ entry, ∀ leaf ∈ slice.leaves basePos,
      valid (JVLinkServer.slice leaf.start leaf.size first))
    (secondValid : ∀ slice ∈ entry, ∀ leaf ∈ slice.leaves basePos,
      valid (JVLinkServer.slice leaf.start leaf.size second))
    (same : Json.record (emitEntry codePage first entry basePos) =
      Json.record (emitEntry codePage second entry basePos)) :
    AgreeOn first second ⟨basePos, stride⟩ := by
  have bounds := (within_of_ascending ordered).2
  have slices : ∀ extent ∈ entry.map Slice.extent,
      AgreeOn (first.drop basePos) (second.drop basePos) extent := by
    intro extent inside
    have fits := (bounds extent inside).2
    obtain ⟨slice, member, rfl⟩ := List.mem_map.mp inside
    have emitted : (Json.record (emitEntry codePage first entry basePos)).member? slice.name =
        some (slice.emit codePage first basePos) := member?_emitEntry distinct member
    rw [same, member?_emitEntry distinct member] at emitted
    have agree := agree_of_emit distinguishes (by omega) (by omega) (firstValid slice member)
      (secondValid slice member) (Option.some.inj emitted).symm
    intro index covers
    rw [List.getElem?_drop, List.getElem?_drop]
    apply agree
    exact ⟨Nat.add_le_add_left covers.1 _, by
      have upper := covers.2
      change index < slice.extent.start + slice.extent.size at upper
      change basePos + index < basePos + slice.extent.start + slice.extent.size
      omega⟩
  have whole := agree_of_gapless ordered gapless slices
  intro index covers
  obtain ⟨after, before⟩ := covers
  change basePos ≤ index at after
  change index < basePos + stride at before
  have there := whole (index - basePos) ⟨Nat.zero_le _, by
    change index - basePos < 0 + (stride - 0)
    omega⟩
  simpa only [List.getElem?_drop, Nat.add_sub_cancel' after] using there

theorem agree_of_statement (distinguishes : Distinguishes codePage valid) {statement : Statement}
    (filled : statement.filled = true) (distinct : statement.entryNames.Nodup)
    (firstFits : statement.extent.stop ≤ first.length)
    (secondFits : statement.extent.stop ≤ second.length)
    (firstValid : ∀ leaf ∈ statement.leaves, valid (slice leaf.start leaf.size first))
    (secondValid : ∀ leaf ∈ statement.leaves, valid (slice leaf.start leaf.size second))
    (firstWhole : statement.LeavesOut codePage first .never)
    (secondWhole : statement.LeavesOut codePage second .never)
    (same : statement.emit codePage first = statement.emit codePage second) :
    AgreeOn first second statement.extent := by
  cases statement with
  | field slice =>
      have agree : AgreeOn first second (slice.extent.shift 0) :=
        agree_of_emit distinguishes (by rwa [Nat.zero_add]) (by rwa [Nat.zero_add]) firstValid
          secondValid same
      simpa [Extent.shift, Statement.extent] using agree
  | objects name start stride count skip entry =>
      simp only [Statement.filled, Bool.and_eq_true, List.isEmpty_iff] at filled
      obtain ⟨⟨ordered, gapless⟩, -⟩ := filled
      simp only [Statement.LeavesOut, kept_never] at firstWhole secondWhole
      simp only [Statement.emit, firstWhole, secondWhole, Json.array.injEq, List.map_map,
        List.map_inj_left, List.mem_range] at same
      apply agree_repeated
      intro i inside
      have last := repeated_within start stride inside
      have within {rawData : Bytes} (fits : (start + count * stride) ≤ rawData.length) :
          start + i * stride + stride ≤ rawData.length := by omega
      have leaves {slice : Slice} (member : slice ∈ entry) {leaf : Extent}
          (leafMember : leaf ∈ slice.leaves (start + i * stride)) :
          leaf ∈ (Statement.objects name start stride count skip entry).leaves :=
        List.mem_flatMap.mpr ⟨i, List.mem_range.mpr inside,
          List.mem_flatMap.mpr ⟨slice, member, leafMember⟩⟩
      exact agree_of_entries distinguishes ordered gapless distinct (within firstFits)
        (within secondFits) (fun slice member leaf inner => firstValid leaf (leaves member inner))
        (fun slice member leaf inner => secondValid leaf (leaves member inner)) (same i inside)

/-- Two records have the same data exactly when they have the same bytes in their fields. -/
theorem same_data_iff (codePage : Bytes → Option Bytes) (valid : Bytes → Prop)
    (distinguishes : Distinguishes codePage valid) {type : RecordType} (known : type ≠ .unknown)
    {first second : Bytes} (readable : Readable codePage valid type first)
    (other : Readable codePage valid type second) (length : first.length = second.length) :
    (parseRecord (parseBasicFields codePage) first).structuredData =
        (parseRecord (parseBasicFields codePage) second).structuredData ↔
      ∀ index, 2 ≤ index → index < fieldsEnd type →
        (∀ gap ∈ reserved type, ¬ gap.Covers index) → first[index]? = second[index]? := by
  have ordered := (extents_checked type known).1
  constructor
  · intro same index after before outside
    rw [← (extents_checked type known).2] at outside
    apply agree_outside_gaps ordered _ after before outside
    intro extent inside
    have fits := ((within_of_ascending ordered).2 extent inside).2
    obtain ⟨statement, member, rfl⟩ := List.mem_map.mp inside
    have emitted := member?_statement readable.is known member
    rw [same, member?_statement other.is known member] at emitted
    exact agree_of_statement distinguishes (entries_filled type statement member)
      (entries_distinct type statement member) (Nat.le_trans fits readable.long)
      (Nat.le_trans fits other.long) (readable.valid statement member)
      (other.valid statement member) (readable.whole statement member)
      (other.whole statement member) (Option.some.inj emitted).symm
  · intro agree
    rw [structuredData_eq readable.is known, structuredData_eq other.is known]
    apply congrArg Json.record
    apply List.map_congr_left
    intro statement member
    rw [statement_emit_congr (entries_filled type statement member) length]
    intro index covers
    have inside : statement.extent ∈ extents type := List.mem_map_of_mem member
    obtain ⟨after, before⟩ := (within_of_ascending ordered).2 _ inside
    apply agree index (Nat.le_trans after covers.1) (Nat.lt_of_lt_of_le covers.2 before)
    intro gap between
    rw [← (extents_checked type known).2] at between
    exact gap_apart ordered between inside covers

/-- A horse name with its meaning, and how the line ends. -/
def meaningRecord (ending : Bytes) : Bytes := utf8 "HY" ++ List.replicate 119 65 ++ ending

def isAscii (bytes : Bytes) : Prop := ∀ byte ∈ bytes, byte ≠ 0 ∧ byte < 128

instance (bytes : Bytes) : Decidable (isAscii bytes) := List.decidableBAll _ _

theorem distinguishes_ascii : Distinguishes some isAscii := by
  have same {bytes : Bytes} (ascii : isAscii bytes) : convertEncoding some bytes = bytes := by
    unfold convertEncoding
    split
    · next empty => rw [List.isEmpty_iff.mp empty]
    · rw [Option.getD_some, List.takeWhile_eq_self_iff]
      intro byte inside
      simpa using (ascii byte inside).1
  intro first second firstAscii secondAscii _ converted
  rwa [same firstAscii, same secondAscii] at converted

theorem meaningRecord_readable {ending : Bytes} (ascii : isAscii ending) :
    Readable some isAscii .hy (meaningRecord ending) where
  is := by
    have two : (meaningRecord ending).take 2 = utf8 "HY" := by
      rw [meaningRecord, List.append_assoc]
      exact List.take_left' rfl
    have long : ¬ (meaningRecord ending).length < 2 := by
      simp only [meaningRecord, List.length_append, List.length_replicate]
      omega
    simp only [parseRecord, if_neg long, two]
    decide +kernel
  long := by
    have two : (utf8 "HY").length = 2 := rfl
    have fields : fieldsEnd .hy = 121 := rfl
    simp only [meaningRecord, List.length_append, List.length_replicate, two, fields]
    omega
  valid := by
    intro statement _ leaf _ byte inside
    have whole : isAscii (meaningRecord ending) := by
      intro byte inside
      simp only [meaningRecord, List.mem_append, List.mem_replicate] at inside
      obtain (inside | ⟨-, rfl⟩) | inside := inside
      · exact (by decide : isAscii (utf8 "HY")) byte inside
      · decide
      · exact ascii byte inside
    exact whole byte (List.mem_of_mem_drop (List.mem_of_mem_take inside))
  whole := by
    intro statement inside
    apply leavesOut_of_skip
    rw [skip_never .hy (by decide) statement inside]
    exact if_neg (by simp)

theorem same_data_iff_ending :
    (parseRecord (parseBasicFields some) (meaningRecord [13, 10])).structuredData =
      (parseRecord (parseBasicFields some) (meaningRecord [10, 10])).structuredData := by
  apply (same_data_iff some isAscii distinguishes_ascii (by decide)
    (meaningRecord_readable (by decide)) (meaningRecord_readable (by decide))
    (by simp [meaningRecord])).mpr
  intro index after before _
  have two : (utf8 "HY").length = 2 := rfl
  have inside : index < (utf8 "HY" ++ List.replicate 119 65).length := by
    rw [List.length_append, List.length_replicate, two]
    exact before
  rw [meaningRecord, meaningRecord, List.getElem?_append_left inside,
    List.getElem?_append_left inside]

end Lossless

/-! ## Fields apart -/

/-- Writing into one field changes no other. -/
theorem other_fields_kept (codePage : Bytes → Option Bytes) {first second : Bytes}
    (known : (parseRecord (parseBasicFields codePage) first).type ≠ .unknown)
    (length : first.length = second.length) {written : Statement}
    (member : written ∈ statementsOf (parseRecord (parseBasicFields codePage) first).type)
    (outside : ∀ index, ¬ written.extent.Covers index → first[index]? = second[index]?) :
    (parseRecord (parseBasicFields codePage) second).type =
        (parseRecord (parseBasicFields codePage) first).type ∧
      ∀ name, name ≠ written.name →
        (parseRecord (parseBasicFields codePage) second).structuredData.member? name =
          (parseRecord (parseBasicFields codePage) first).structuredData.member? name := by
  generalize is : (parseRecord (parseBasicFields codePage) first).type = type at known member ⊢
  have ordered := (extents_checked type known).1
  have within := (within_of_ascending ordered).2 written.extent (List.mem_map_of_mem member)
  have same : (parseRecord (parseBasicFields codePage) second).type = type := by
    have two : first.take 2 = second.take 2 := by
      have agree : AgreeOn first second ⟨0, 2⟩ := by
        intro index covers
        apply outside
        intro inside
        have early : index < 2 := covers.2
        have late := inside.1
        omega
      exact slice_eq_iff.mpr agree
    rw [← is]
    simp only [parseRecord, length, two]
  refine ⟨same, fun name other => ?_⟩
  rw [structuredData_eq is known, structuredData_eq same known]
  by_cases listed : name ∈ (statementsOf type).map Statement.name
  · obtain ⟨kept, inside, rfl⟩ := List.mem_map.mp listed
    rw [member?_emitFields (statements_distinct type) inside,
      member?_emitFields (statements_distinct type) inside,
      statement_emit_congr (entries_filled type kept inside) length]
    intro index covers
    apply outside
    intro clash
    have apart : kept.extent.stop ≤ written.extent.start ∨
        written.extent.stop ≤ kept.extent.start := by
      have pairs := List.pairwise_map.mp (disjoint_of_ascending ordered)
      have both : (statementsOf type).Pairwise fun earlier later : Statement =>
          earlier.extent.stop ≤ later.extent.start ∨ later.extent.stop ≤ earlier.extent.start :=
        pairs.imp fun before => .inl before
      have different : kept ≠ written := fun same => other (by rw [same])
      have symmetric : Std.Symm fun earlier later : Statement =>
          earlier.extent.stop ≤ later.extent.start ∨ later.extent.stop ≤ earlier.extent.start :=
        ⟨fun _ _ apart => apart.symm⟩
      exact both.forall inside member different
    have early := covers.1
    have late := covers.2
    have clashEarly := clash.1
    have clashLate := clash.2
    omega
  · rw [member?_record_none (by rwa [emitFields_names]),
      member?_record_none (by rwa [emitFields_names])]

theorem other_fields_kept_renamed :
    (parseRecord (parseBasicFields some)
        ((meaningRecord [13, 10]).set 21 66)).structuredData.member? "horse_name_meaning" =
      (parseRecord (parseBasicFields some) (meaningRecord [13, 10])).structuredData.member?
        "horse_name_meaning" := by
  have is : (parseRecord (parseBasicFields some) (meaningRecord [13, 10])).type = .hy :=
    (meaningRecord_readable (by decide)).is
  have name : Statement.text "horse_name" 21 36 ∈
      statementsOf (parseRecord (parseBasicFields some) (meaningRecord [13, 10])).type := by
    rw [is]
    exact .tail _ (.tail _ (.tail _ (.head _)))
  apply (other_fields_kept some _ List.length_set.symm name _).2 _ (by decide)
  · rw [is]
    decide
  · intro index apart
    refine (List.getElem?_set_ne ?_).symm
    rintro rfl
    exact apart ⟨Nat.le_refl 21, by decide⟩

end JVLinkServer.Records
