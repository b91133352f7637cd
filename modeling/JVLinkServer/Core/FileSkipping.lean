import JVLinkServer.Core.ObligingLink

namespace JVLinkServer.Core

open Effects

/-! # Skipping files and filtering records

A stored query asks JV-Link to skip the file of an unwanted record.  All the records
of a file have one type, so this leaves out what a filter would leave out.
-/

/-- A file of a stream: its records start with the two bytes of one type. -/
structure DataFile where
  name : Bytes
  recordType : Bytes
  records : List Bytes
  twoBytes : recordType.length = 2
  typed : ∀ record ∈ records, record.take 2 = recordType

namespace DataFile

/-- The file after its first record. -/
def rest (file : DataFile) : DataFile where
  name := file.name
  recordType := file.recordType
  records := file.records.tail
  twoBytes := file.twoBytes
  typed record member := file.typed record (List.mem_of_mem_tail member)

end DataFile

/-- Where JV-Link reads: the files that are left, the current one with the records that
are left of it, and the number of calls of `JVSkip` made so far. -/
structure FileCursor where
  files : List DataFile
  skips : Nat := 0

namespace FileCursor

/-- `JVGets`: the next record, `-1` between two files and `0` after the last one. -/
def gets (cursor : FileCursor) : GetsReply × FileCursor :=
  match cursor.files with
  | [] => ({ result := .long 0 }, cursor)
  | file :: files =>
      match file.records with
      | record :: _ =>
          ({ result := .long record.length, safeArray := .bytes record, filename := some file.name },
            { cursor with files := file.rest :: files })
      | [] =>
          if files.isEmpty then ({ result := .long 0 }, cursor)
          else ({ result := .long (-1) }, { cursor with files })

/-- `JVSkip`, which fails with a reply of its own or moves to the next file. -/
def skip (refusal : Nat → Option Reply) (cursor : FileCursor) : Reply × FileCursor :=
  match refusal cursor.skips with
  | some reply => (reply, { cursor with skips := cursor.skips + 1 })
  | none => (.long 0, { files := cursor.files.tail, skips := cursor.skips + 1 })

/-- The records that are left. -/
def records (cursor : FileCursor) : List Bytes := cursor.files.flatMap (·.records)

/-- The answers of `JVGets` that are left at most. -/
def size (cursor : FileCursor) : Nat := (cursor.files.map (·.records.length + 1)).sum

end FileCursor

/-- The JV-Link of a list of files. -/
def filesJVLink (files : List DataFile) (refusal : Nat → Option Reply) : JVLink FileCursor :=
  obligingJVLink files.length FileCursor.gets (FileCursor.skip refusal)

/-- The records of the types in the filter. -/
def StoredQuery.filtered (query : StoredQuery) (records : List Bytes) : List Bytes :=
  records.filter fun record => query.filterRecordTypes.contains (record.take 2)

theorem StoredQuery.filtered_cons (query : StoredQuery) (record : Bytes) (records : List Bytes) :
    query.filtered (record :: records) =
      if query.filterRecordTypes.contains (record.take 2) then record :: query.filtered records
      else query.filtered records :=
  List.filter_cons

/-- An answer of `JVGets` without a record. -/
def GetsReply.idle (reply : GetsReply) : Bool :=
  match reply.kind with
  | .record _ => false
  | _ => true

/-- Too many answers in a row without a record. -/
def Stalls (answered : List GetsReply) : Prop :=
  ∃ before stalled after, answered = before ++ stalled ++ after ∧ maxRetries ≤ stalled.length ∧
    ∀ reply ∈ stalled, reply.idle = true

/-- The wrapper before a query, with nothing on record. -/
def openedWorld (files : List DataFile) : World FileCursor (List Bytes) where
  wrapper := { dispatch := true, isInitialized := true }
  worker := { running := true, acceptingTasks := true }
  env := { files }
  client := []

section Cursor

variable {cursor : FileCursor} {query : StoredQuery}

/-- What `JVGets` does at a cursor: it reads a record of the current file, leaves an
empty file behind, or has come to the end. -/
theorem FileCursor.gets_cases (cursor : FileCursor) :
    (∃ file files record, cursor.files = file :: files ∧ record ∈ file.records ∧
      cursor.gets.1.kind = .record record ∧ cursor.gets.2 = { cursor with files := file.rest :: files } ∧
      cursor.records = record :: cursor.gets.2.records ∧ cursor.size = cursor.gets.2.size + 1) ∨
    (cursor.gets.1.kind = .waiting ∧ cursor.files.length = cursor.gets.2.files.length + 1 ∧
      cursor.records = cursor.gets.2.records ∧ cursor.size = cursor.gets.2.size + 1) ∨
    (cursor.gets.1.kind = .endOfFiles ∧ cursor.gets.2 = cursor ∧ cursor.records = []) := by
  obtain ⟨files, skips⟩ := cursor
  cases files with
  | nil => exact .inr (.inr ⟨rfl, rfl, rfl⟩)
  | cons file files =>
      cases records : file.records with
      | cons record more =>
          have member : record ∈ file.records := by simp [records]
          have length : 2 ≤ record.length := by
            have typed := congrArg List.length (file.typed record member)
            rw [file.twoBytes, List.length_take] at typed
            omega
          refine .inl ⟨file, files, record, rfl, member, ?_, ?_, ?_, ?_⟩
          · simp only [gets, records, GetsReply.kind, GetsReply.code, Reply.lVal]
            rw [if_pos (by omega)]
            simp
          · simp [gets, records]
          · simp [gets, FileCursor.records, DataFile.rest, records]
          · simp [gets, size, DataFile.rest, records]
            omega
      | nil =>
          cases files with
          | nil => exact .inr (.inr ⟨by simp [gets, records]; decide, by simp [gets, records],
              by simp [FileCursor.records, records]⟩)
          | cons next files =>
              refine .inr (.inl ⟨by simp [gets, records]; decide, by simp [gets, records], ?_, ?_⟩)
              · simp [gets, FileCursor.records, records]
              · simp [gets, size, records]
                omega

theorem FileCursor.gets_intact (cursor : FileCursor) :
    isFileCorrupted cursor.gets.1.code = false := by
  unfold gets
  split
  · rfl
  · split
    · simp [GetsReply.code, Reply.lVal, isFileCorrupted, jvErrorFileCorruptedHeader,
        jvErrorFileCorruptedRacing]
    · split <;> rfl

theorem FileCursor.skip_size (refusal : Nat → Option Reply) (cursor : FileCursor) :
    (cursor.skip refusal).2.size ≤ cursor.size := by
  unfold skip
  split
  · exact Nat.le_refl _
  · obtain ⟨files, skips⟩ := cursor
    cases files <;> simp [size]

/-- The rest of a file of an unwanted type holds no wanted record. -/
theorem FileCursor.skip_filtered (refusal : Nat → Option Reply) {file : DataFile}
    {files : List DataFile} (current : cursor.files = file :: files)
    (unwanted : query.filterRecordTypes.contains file.recordType = false) :
    query.filtered (cursor.skip refusal).2.records = query.filtered cursor.records := by
  have none : query.filtered file.records = [] := by
    refine List.filter_eq_nil_iff.mpr fun record member => ?_
    rw [file.typed record member, unwanted]
    exact Bool.false_ne_true
  have whole : query.filtered cursor.records = query.filtered (files.flatMap (·.records)) := by
    rw [records, current, List.flatMap_cons]
    simp only [StoredQuery.filtered, List.filter_append] at none ⊢
    rw [none, List.nil_append]
  unfold skip
  split
  · rfl
  · rw [whole, records, current, List.tail_cons]

theorem shouldSkip_eq (filters : query.filterRecordTypes ≠ []) {file : DataFile} {record : Bytes}
    (member : record ∈ file.records) :
    query.shouldSkip record = !query.filterRecordTypes.contains file.recordType := by
  have typed := file.typed record member
  have length : 2 ≤ record.length := by
    have taken := congrArg List.length typed
    rw [file.twoBytes, List.length_take] at taken
    omega
  simp [StoredQuery.shouldSkip, typed, length, filters]

end Cursor

/-! ## The read loop -/

section Loop

variable {query : StoredQuery} {refusal : Nat → Option Reply} {files : List DataFile}

/-- The last `count` answers had no record. -/
def IdleFor (count : Nat) (answered : List GetsReply) : Prop :=
  ∃ before stalled, answered = before ++ stalled ∧ stalled.length = count ∧
    ∀ reply ∈ stalled, reply.idle = true

theorem idleFor_zero (answered : List GetsReply) : IdleFor 0 answered :=
  ⟨answered, [], by simp, rfl, by simp⟩

theorem IdleFor.concat {count : Nat} {answered : List GetsReply} (idleFor : IdleFor count answered)
    {reply : GetsReply} (idle : reply.idle = true) :
    IdleFor (count + 1) (answered ++ [reply]) := by
  obtain ⟨before, stalled, rfl, length, each⟩ := idleFor
  refine ⟨before, stalled ++ [reply], by simp, by simp [length], ?_⟩
  intro other member
  rcases List.mem_append.mp member with earlier | last
  · exact each other earlier
  · rwa [List.mem_singleton.mp last]

theorem IdleFor.stalls {count : Nat} {answered : List GetsReply}
    (idleFor : IdleFor count answered) (many : maxRetries ≤ count) : Stalls answered := by
  obtain ⟨before, stalled, rfl, length, each⟩ := idleFor
  exact ⟨before, stalled, [], by simp, by omega, each⟩

/-- How far the read loop has come with the wanted records of the stream.  Every idle
answer has left a file behind. -/
structure Selecting (query : StoredQuery) (wanted : List Bytes) (fileCount : Nat)
    (cursor : FileCursor) (delivered : List Bytes) (answered : List GetsReply)
    (progress : ReadProgress) : Prop where
  counted : progress.actualRecords = delivered.length
  divided : delivered ++ query.filtered cursor.records = wanted
  bounded : delivered.length ≤ query.effectiveMaxRecords
  idle : IdleFor progress.retryCount answered
  paid : answered.countP (·.idle) + cursor.files.length ≤ fileCount

theorem Stalls.many {answered : List GetsReply} (stalls : Stalls answered) :
    maxRetries ≤ answered.countP (·.idle) := by
  obtain ⟨before, stalled, after, rfl, many, each⟩ := stalls
  have all : stalled.countP (·.idle) = stalled.length := List.countP_eq_length.mpr each
  rw [List.countP_append, List.countP_append]
  omega

section Turn

variable {wanted : List Bytes} {fileCount : Nat} {cursor : FileCursor} {delivered : List Bytes}
  {answered : List GetsReply} {progress : ReadProgress}
  (selecting : Selecting query wanted fileCount cursor delivered answered progress)
include selecting

/-- At the end of the files every wanted record has been passed on. -/
theorem Selecting.atEnd (ended : cursor.records = []) :
    delivered = wanted.take query.effectiveMaxRecords := by
  have whole := selecting.divided
  rw [ended, StoredQuery.filtered, List.filter_nil, List.append_nil] at whole
  rw [← whole, List.take_of_length_le selecting.bounded]

theorem Selecting.atLimit (full : query.effectiveMaxRecords ≤ progress.actualRecords) :
    delivered = wanted.take query.effectiveMaxRecords := by
  have length : delivered.length = query.effectiveMaxRecords :=
    Nat.le_antisymm selecting.bounded (selecting.counted ▸ full)
  rw [← selecting.divided, ← length, List.take_left]

/-- A turn that goes on keeps count of the wanted records, and leaves less to read. -/
theorem Selecting.turn (filters : query.filterRecordTypes ≠ [])
    (room : progress.actualRecords < query.effectiveMaxRecords)
    {next : ReadProgress} {after : FileCursor} {kept : List Bytes}
    (turn : StoredTurn query progress.actualRecords progress.retryCount
      (FileCursor.skip refusal) cursor.gets.2 delivered cursor.gets.1.kind (some next) after kept) :
    Selecting query wanted fileCount after kept (answered ++ [cursor.gets.1]) next ∧
      after.size < cursor.size := by
  have divided := selecting.divided
  have paid := selecting.paid
  have counted := selecting.counted
  rcases cursor.gets_cases with
    ⟨file, files, record, current, member, kind, moved, records, size⟩ |
    ⟨kind, moved, records, size⟩ | ⟨kind, -, -⟩
  · have busy : cursor.gets.1.idle = false := by simp [GetsReply.idle, kind]
    have skips := shouldSkip_eq filters member
    have typed := file.typed record member
    rw [kind] at turn
    cases turn with
    | delivers kept =>
        rw [skips, Bool.not_eq_false'] at kept
        refine ⟨⟨by simp [counted], ?_, by simp; omega, idleFor_zero _, ?_⟩, by omega⟩
        · rw [← divided, records, StoredQuery.filtered_cons, typed, if_pos kept, List.append_assoc]
          rfl
        · simpa [busy, moved, current] using paid
    | skips dropped =>
        rw [skips, Bool.not_eq_true'] at dropped
        have smaller := FileCursor.skip_size refusal cursor.gets.2
        have current' : cursor.gets.2.files = file.rest :: files := by rw [moved]
        refine ⟨⟨counted, ?_, selecting.bounded, idleFor_zero _, ?_⟩, by omega⟩
        · rw [FileCursor.skip_filtered refusal current' dropped, ← divided, records,
            StoredQuery.filtered_cons, typed, dropped, if_neg Bool.false_ne_true]
        · have fewer : (cursor.gets.2.skip refusal).2.files.length ≤ cursor.files.length := by
            unfold FileCursor.skip
            split <;> simp [current', current]
          simp only [List.countP_append, List.countP_singleton, busy]
          simp
          omega
    | waits idle => rcases idle with impossible | impossible <;> cases impossible
  · have idle : cursor.gets.1.idle = true := by simp [GetsReply.idle, kind]
    rw [kind] at turn
    cases turn with
    | waits =>
        refine ⟨⟨counted, ?_, selecting.bounded, selecting.idle.concat idle, ?_⟩, by omega⟩
        · rw [← records, divided]
        · simp only [List.countP_append, List.countP_singleton, idle, if_true]
          omega
  · rw [kind] at turn
    cases turn with
    | waits idle => rcases idle with impossible | impossible <;> cases impossible

end Turn

theorem readLoop_selects (filters : query.filterRecordTypes ≠ []) (readCount : Int)
    {wanted : List Bytes} {fileCount fuel : Nat} {cursor : FileCursor} {delivered : List Bytes}
    {answered : List GetsReply} {progress : ReadProgress} (enough : cursor.size < fuel)
    (selecting : Selecting query wanted fileCount cursor delivered answered progress) :
    Ensures (World.Quiet cursor delivered answered)
      (readLoop (obligingJVLink readCount FileCursor.gets (FileCursor.skip refusal))
        collectingClient query fuel progress)
      (fun _ world => world.client = wanted.take query.effectiveMaxRecords ∧
        (getsReplies world.files).countP (·.idle) ≤ fileCount + 1)
      (fun _ world => Stalls (getsReplies world.files) ∧ maxRetries ≤ fileCount) := by
  induction fuel generalizing cursor delivered answered progress with
  | zero => omega
  | succ fuel ih =>
      have paid := selecting.paid
      refine Ensures.ite (fun goesOn => ?_) fun stops => ?_
      · simp only [Bool.and_eq_true, decide_eq_true_eq] at goesOn
        refine Ensures.bind ((readOnce_quiet cursor.gets_intact progress).raise ?_) fun next => ?_
        · rintro exception world ⟨⟨code, message, failed, -⟩, -⟩
          rcases cursor.gets_cases with ⟨_, _, _, _, _, kind, _⟩ | ⟨kind, _⟩ | ⟨kind, _⟩ <;>
            simp [kind] at failed
        rintro world ⟨after, kept, turn, quiet⟩
        cases next with
        | some next =>
            obtain ⟨selects, smaller⟩ := selecting.turn filters goesOn.1 turn
            exact ih (by omega) selects world quiet
        | none =>
            rcases cursor.gets_cases with ⟨_, _, _, _, _, kind, _⟩ | ⟨kind, _⟩ | ⟨kind, stays, ended⟩
            · rw [kind] at turn
              cases turn
            · rw [kind] at turn
              cases turn
            · rw [kind] at turn
              cases turn with
              | ends =>
                  refine ⟨quiet.client.trans (selecting.atEnd ended), ?_⟩
                  rw [quiet.answered, List.countP_append, List.countP_singleton]
                  split <;> omega
      refine Ensures.ite (fun exhausted => ?_) fun patient => ?_
      · refine Ensures.throw fun world quiet => ?_
        have stalls : Stalls (getsReplies world.files) := by
          rw [quiet.answered]
          exact selecting.idle.stalls exhausted
        refine ⟨stalls, ?_⟩
        have many := stalls.many
        rw [quiet.answered] at many
        omega
      · refine Ensures.pure fun world quiet => ⟨?_, ?_⟩
        · rw [quiet.client]
          refine selecting.atLimit ?_
          simp only [Bool.and_eq_true, decide_eq_true_eq] at stops
          omega
        · rw [quiet.answered]
          omega

end Loop

/-! ## The query -/

section Query

variable {files : List DataFile} {refusal : Nat → Option Reply} {query : StoredQuery} {fuel : Nat}

theorem settled_ending {wanted : List Bytes} {fileCount : Nat} :
    Settled (fun world : World FileCursor (List Bytes) => world.client = wanted ∧
      (getsReplies world.files).countP (·.idle) ≤ fileCount) := by
  rintro before after same ⟨client, few⟩
  exact ⟨same.client.trans client, by rwa [same.files]⟩

theorem settled_stalling {fileCount : Nat} :
    Settled (fun world : World FileCursor (List Bytes) =>
      Stalls (getsReplies world.files) ∧ maxRetries ≤ fileCount) := by
  rintro before after same ⟨stalls, many⟩
  exact ⟨by rwa [same.files], many⟩

/-- Either way a stored query over a list of files can end. -/
theorem queryStored_selects (filters : query.filterRecordTypes ≠ [])
    (enough : FileCursor.size { files } < fuel) :
    Ends
      (fun _ world => world.client =
          (query.filtered (files.flatMap (·.records))).take query.effectiveMaxRecords ∧
        (getsReplies world.files).countP (·.idle) ≤ files.length + 1)
      (fun _ world => Stalls (getsReplies world.files) ∧ maxRetries ≤ files.length)
      (queryStored (filesJVLink files refusal) collectingClient query fuel (openedWorld files)) := by
  have selecting : Selecting query (query.filtered (files.flatMap (·.records))) files.length
      { files } [] [] {} :=
    ⟨rfl, by rfl, Nat.zero_le _, idleFor_zero _, by simp⟩
  refine queryStored_quiet (fun _ => settled_ending) (fun _ => settled_stalling) ?_ _
    ⟨rfl, rfl, rfl, rfl, rfl, rfl, rfl⟩
  refine Ensures.ite (fun _ => readLoop_selects filters _ enough selecting) fun none => ?_
  have empty : files = [] := by
    cases files with
    | nil => rfl
    | cons file files => simp at none
  subst empty
  refine Ensures.pure fun world quiet => ⟨?_, ?_⟩
  · rw [quiet.client]
    simp [StoredQuery.filtered, openedWorld]
  · rw [quiet.answered]
    simp [openedWorld, getsReplies]

theorem queryStored_passes (filters : query.filterRecordTypes ≠ [])
    (enough : FileCursor.size { files } < fuel) {reason : StreamEnd}
    {final : World FileCursor (List Bytes)}
    (run : queryStored (filesJVLink files refusal) collectingClient query fuel (openedWorld files) =
      .ok reason final) :
    final.client = (query.filtered (files.flatMap (·.records))).take query.effectiveMaxRecords := by
  have ended : Ends _ _ (queryStored (filesJVLink files refusal) collectingClient query fuel
      (openedWorld files)) := queryStored_selects filters enough
  rw [run] at ended
  exact ended.1

theorem few_files_move (filters : query.filterRecordTypes ≠ [])
    (enough : FileCursor.size { files } < fuel) (few : files.length + 1 < maxRetries) :
    ¬ Stalls (getsReplies (finalState (queryStored (filesJVLink files refusal) collectingClient
      query fuel (openedWorld files))).files) := by
  intro stalls
  have many := stalls.many
  have ended : Ends _ _ (queryStored (filesJVLink files refusal) collectingClient query fuel
      (openedWorld files)) := queryStored_selects filters enough
  revert many ended
  cases queryStored (filesJVLink files refusal) collectingClient query fuel (openedWorld files) with
  | ok reason world =>
      rintro many ⟨-, counted⟩
      have many : maxRetries ≤ (getsReplies world.files).countP (·.idle) := many
      omega
  | error exception world =>
      rintro - ⟨-, many⟩
      omega

/-- For every division into files, and however often `JVSkip` fails. -/
theorem skipping_agrees_with_filtering (files : List DataFile) (refusal : Nat → Option Reply)
    (query : StoredQuery) (fuel : Nat) (filters : query.filterRecordTypes ≠ [])
    (enough : FileCursor.size { files } < fuel)
    (moves : ¬ Stalls (getsReplies (finalState (queryStored (filesJVLink files refusal)
      collectingClient query fuel (openedWorld files))).files)) :
    ∃ reason final,
      queryStored (filesJVLink files refusal) collectingClient query fuel (openedWorld files) =
        .ok reason final ∧
      final.client = (query.filtered (files.flatMap (·.records))).take query.effectiveMaxRecords := by
  have ended : Ends _ _ (queryStored (filesJVLink files refusal) collectingClient query fuel
      (openedWorld files)) := queryStored_selects filters enough
  cases run : queryStored (filesJVLink files refusal) collectingClient query fuel
      (openedWorld files) with
  | ok reason world => exact ⟨reason, world, rfl, queryStored_passes filters enough run⟩
  | error exception world =>
      rw [run] at moves ended
      exact absurd ended.1 moves

end Query

/-! ## Two files of which one is skipped -/

def raceFile (count : Nat) : DataFile where
  name := utf8 "RA24.jvd"
  recordType := utf8 "RA"
  records := List.replicate count (utf8 "RA7")
  twoBytes := by decide
  typed record member := by
    rw [List.eq_of_mem_replicate member]
    decide

def horseFile : DataFile where
  name := utf8 "SE24.jvd"
  recordType := utf8 "SE"
  records := [utf8 "SE1", utf8 "SE2"]
  twoBytes := by decide
  typed := by decide

/-- The query for all the records of races. -/
def racesQuery : StoredQuery where
  dataspec := utf8 "RACE"
  fromdate := utf8 "20240101"
  option := 1
  filterRecordTypes := [utf8 "RA"]

theorem raceFile_size (count : Nat) :
    FileCursor.size { files := [raceFile count] } < count + 2 := by
  simp [FileCursor.size, raceFile]

theorem raceFile_filtered (count : Nat) :
    racesQuery.filtered ([raceFile count].flatMap (·.records)) =
      List.replicate count (utf8 "RA7") := by
  have wanted : racesQuery.filterRecordTypes.contains ((utf8 "RA7").take 2) = true := by decide
  have flat : [raceFile count].flatMap (·.records) = List.replicate count (utf8 "RA7") := by
    simp [raceFile]
  rw [flat, StoredQuery.filtered]
  refine List.filter_eq_self.mpr fun record member => ?_
  rw [List.eq_of_mem_replicate member, wanted]

theorem skipping_agrees_with_filtering_two_files :
    ∃ reason final,
      queryStored (filesJVLink [horseFile, raceFile 1] fun _ => none) collectingClient racesQuery 10
        (openedWorld [horseFile, raceFile 1]) = .ok reason final ∧
      final.client = [utf8 "RA7"] := by
  have moves : ¬ Stalls (getsReplies (finalState (queryStored
      (filesJVLink [horseFile, raceFile 1] fun _ => none) collectingClient racesQuery 10
      (openedWorld [horseFile, raceFile 1]))).files) :=
    few_files_move (by decide) (by decide) (by decide)
  obtain ⟨reason, final, run, selected⟩ := skipping_agrees_with_filtering
    [horseFile, raceFile 1] (fun _ => none) racesQuery 10 (by decide) (by decide) moves
  exact ⟨reason, final, run, selected.trans (by decide)⟩

/-- A limit that is not positive is the largest `long long`: the query stops there, which takes
a server with `2 ^ 63` records. -/
theorem skipping_stops_at_largest_count :
    ¬ ∀ (files : List DataFile) (refusal : Nat → Option Reply) (query : StoredQuery) (fuel : Nat),
      query.filterRecordTypes ≠ [] → (∀ recordType ∈ query.filterRecordTypes, recordType.length = 2) →
      FileCursor.size { files } < fuel →
      ¬ Stalls (getsReplies (finalState (queryStored (filesJVLink files refusal)
        collectingClient query fuel (openedWorld files))).files) →
      ∃ reason final,
        queryStored (filesJVLink files refusal) collectingClient query fuel (openedWorld files) =
          .ok reason final ∧
        final.client =
          if 0 < query.maxRecords then
            (query.filtered (files.flatMap (·.records))).take query.maxRecords.toNat
          else query.filtered (files.flatMap (·.records)) := by
  intro agrees
  obtain ⟨count, large⟩ : ∃ count, count = 2 ^ 63 := ⟨_, rfl⟩
  have size := raceFile_size count
  have moves : ¬ Stalls (getsReplies (finalState (queryStored
      (filesJVLink [raceFile count] fun _ => none) collectingClient racesQuery (count + 2)
      (openedWorld [raceFile count]))).files) :=
    few_files_move (by decide) size (by simp [maxRetries])
  obtain ⟨reason, final, run, passed⟩ := agrees [raceFile count] (fun _ => none) racesQuery
    (count + 2) (by decide) (by decide) size moves
  have selected := queryStored_passes (by decide) size run
  have unlimited : ¬ 0 < racesQuery.maxRecords := by decide
  rw [selected, raceFile_filtered, if_neg unlimited] at passed
  have lengths := congrArg List.length passed
  rw [List.length_take, List.length_replicate, StoredQuery.effectiveMaxRecords, if_neg unlimited]
    at lengths
  omega

end JVLinkServer.Core
