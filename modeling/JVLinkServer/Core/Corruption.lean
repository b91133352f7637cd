import JVLinkServer.Core.ComCallRules
import JVLinkServer.History

namespace JVLinkServer.Core

open Effects History

/-! # Recovery from damaged files

`jvGetsWithRetry` deletes the file that the name buffer names.  The buffer is only
written beside a record, so at a damaged file it still names the file of an earlier
record, or nothing.
-/

/-- The name buffer of a stream that has seen these events. -/
def nameBuffer (files : List FileEvent) : Bytes :=
  files.foldl (fun filename event =>
    match event with
    | .gets _ reply => (reply.store none filename).filename
    | .filedelete _ => filename) []

/-- A record was delivered out of the file of this name. -/
def ReadFrom (files : List FileEvent) (filename : Bytes) : Prop :=
  ∃ attemptsLeft reply data, .gets attemptsLeft reply ∈ files ∧ 0 < reply.code ∧
    reply.safeArray = .bytes data ∧ reply.filename = some filename

structure DeletesCorrupted (before : List FileEvent) (filename : Bytes) : Prop where
  corrupted : ∃ attemptsLeft reply, before.getLast? = some (.gets attemptsLeft reply) ∧
    isFileCorrupted reply.code = true ∧ reply.filename = some filename
  unread : ¬ ReadFrom before filename
  named : filename ≠ []

def DeletesOnlyCorrupted (files : List FileEvent) : Prop :=
  EachEvent (fun before event =>
    ∀ filename, event = .filedelete filename → DeletesCorrupted before filename) files

/-- JV-Link reports the very name that the buffer holds. -/
structure ReportsBufferedName (before : List FileEvent) (reply : GetsReply) : Prop where
  reported : reply.filename = some (nameBuffer before)
  unread : ¬ ReadFrom before (nameBuffer before)
  named : nameBuffer before ≠ []

/-- It does so for every damaged file after which another attempt is left. -/
def CorruptionNamed (files : List FileEvent) : Prop :=
  EachEvent (fun before event =>
    ∀ attemptsLeft reply, event = .gets (attemptsLeft + 1) reply →
      isFileCorrupted reply.code = true → ReportsBufferedName before reply) files

section Names

variable {files : List FileEvent} {attemptsLeft : Nat} {reply : GetsReply} {filename : Bytes}

@[simp] theorem nameBuffer_gets :
    nameBuffer (files ++ [.gets attemptsLeft reply]) =
      (reply.store none (nameBuffer files)).filename := by
  simp [nameBuffer]

@[simp] theorem nameBuffer_filedelete :
    nameBuffer (files ++ [.filedelete filename]) = nameBuffer files := by
  simp [nameBuffer]

theorem code_of_corrupted (corrupted : isFileCorrupted reply.code = true) : reply.code < 0 := by
  simp only [isFileCorrupted, Bool.or_eq_true, beq_iff_eq, jvErrorFileCorruptedHeader,
    jvErrorFileCorruptedRacing] at corrupted
  omega

/-- A damaged file leaves the name buffer as it was. -/
theorem GetsReply.store_corrupted (corrupted : isFileCorrupted reply.code = true)
    (buffer : Option Bytes) : (reply.store buffer filename).filename = filename := by
  have negative := code_of_corrupted corrupted
  have unsuccessful : ¬ 0 < reply.code := by omega
  simp [GetsReply.store, unsuccessful]

theorem readFrom_corrupted (corrupted : isFileCorrupted reply.code = true) :
    ReadFrom (files ++ [.gets attemptsLeft reply]) filename ↔ ReadFrom files filename := by
  have negative := code_of_corrupted corrupted
  constructor
  · rintro ⟨attempts, read, data, member, positive, delivered, named⟩
    rcases List.mem_append.mp member with earlier | last
    · exact ⟨attempts, read, data, earlier, positive, delivered, named⟩
    · obtain ⟨rfl, rfl⟩ : attempts = attemptsLeft ∧ read = reply := by simpa using last
      omega
  · rintro ⟨attempts, read, data, member, rest⟩
    exact ⟨attempts, read, data, List.mem_append_left _ member, rest⟩

theorem deletesCorrupted_iff (corrupted : isFileCorrupted reply.code = true) :
    DeletesCorrupted (files ++ [.gets attemptsLeft reply]) (nameBuffer files) ↔
      ReportsBufferedName files reply := by
  constructor
  · rintro ⟨⟨attempts, read, last, -, reported⟩, unread, named⟩
    obtain ⟨rfl, rfl⟩ : attemptsLeft = attempts ∧ reply = read := by simpa using last
    exact ⟨reported, (readFrom_corrupted corrupted).not.mp unread, named⟩
  · rintro ⟨reported, unread, named⟩
    exact ⟨⟨attemptsLeft, reply, by simp, corrupted, reported⟩,
      (readFrom_corrupted corrupted).not.mpr unread, named⟩

end Names

/-! ## The record of a stream -/

/-- Every damaged file is followed by the deletion of what the buffer names, if
another attempt is left, and nothing else is deleted. -/
inductive FileHistory : List FileEvent → Prop
  | start : FileHistory []
  | reads {files attemptsLeft reply} (earlier : FileHistory files)
      (returned : attemptsLeft = 0 ∨ isFileCorrupted reply.code = false) :
      FileHistory (files ++ [.gets attemptsLeft reply])
  | recovers {files attemptsLeft reply} (earlier : FileHistory files)
      (corrupted : isFileCorrupted reply.code = true) :
      FileHistory (files ++ [.gets (attemptsLeft + 1) reply] ++ [.filedelete (nameBuffer files)])

theorem FileHistory.deletesOnlyCorrupted_iff {files : List FileEvent}
    (history : FileHistory files) : DeletesOnlyCorrupted files ↔ CorruptionNamed files := by
  unfold DeletesOnlyCorrupted CorruptionNamed
  induction history with
  | start => exact iff_of_true eachEvent_nil eachEvent_nil
  | reads earlier returned ih =>
      rw [eachEvent_concat, eachEvent_concat, ih]
      refine and_congr_right fun _ => iff_of_true (by simp) ?_
      rintro attempts read ⟨⟩ corrupted
      rcases returned with impossible | intact
      · simp at impossible
      · simp [intact] at corrupted
  | @recovers files attemptsLeft reply earlier corrupted ih =>
      rw [eachEvent_concat, eachEvent_concat, eachEvent_concat, eachEvent_concat, ih]
      have last : DeletesCorrupted (files ++ [.gets (attemptsLeft + 1) reply])
          (nameBuffer files) ↔ ReportsBufferedName files reply := deletesCorrupted_iff corrupted
      constructor
      · rintro ⟨⟨each, -⟩, deletes⟩
        refine ⟨⟨each, ?_⟩, by simp⟩
        rintro _ _ ⟨⟩ -
        exact last.mp (deletes _ rfl)
      · rintro ⟨⟨each, names⟩, -⟩
        refine ⟨⟨each, by simp⟩, ?_⟩
        rintro _ ⟨⟩
        exact last.mpr (names _ _ rfl corrupted)

/-! ## The stream makes this record -/

section Stream

variable {κ ρ : Type} {jv : JVLink κ} {client : StreamClient ρ} {query : StoredQuery}

def World.Reading (filename : Bytes) (world : World κ ρ) : Prop :=
  FileHistory world.files ∧ filename = nameBuffer world.files

def World.Recorded (world : World κ ρ) : Prop := FileHistory world.files

/-- A predicate on the record only. -/
def OnFiles (kept : World κ ρ → Prop) : Prop :=
  ∀ before after, after.files = before.files → kept before → kept after

theorem OnFiles.beside {kept : World κ ρ → Prop} (onFiles : OnFiles kept) : Beside kept :=
  fun before after alike => onFiles before after alike.files

theorem reading_onFiles (filename : Bytes) : OnFiles (World.Reading (κ := κ) (ρ := ρ) filename) := by
  intro before after files reading
  rwa [World.Reading, files]

theorem recorded_onFiles : OnFiles (World.Recorded (κ := κ) (ρ := ρ)) := by
  intro before after files recorded
  rwa [World.Recorded, files]

theorem reading_beside (filename : Bytes) : Beside (World.Reading (κ := κ) (ρ := ρ) filename) :=
  (reading_onFiles filename).beside

/-- What the record and the buffers are after `jvGets`: without an instance there is
nothing to read. -/
def World.AfterGets (attemptsLeft : Nat) (filename : Bytes) (result : GetsResult)
    (world : World κ ρ) : Prop :=
  (result = { code := -999, buffer := none, filename } ∧ world.Reading filename) ∨
  ∃ files reply, world.files = files ++ [.gets attemptsLeft reply] ∧ FileHistory files ∧
    filename = nameBuffer files ∧ result = reply.store none filename

theorem World.AfterGets.reading {world : World κ ρ} {attemptsLeft : Nat} {filename : Bytes}
    {result : GetsResult} (after : world.AfterGets attemptsLeft filename result)
    (returned : attemptsLeft = 0 ∨ isFileCorrupted result.code = false) :
    world.Reading result.filename := by
  rcases after with ⟨rfl, reading⟩ | ⟨files, reply, recorded, history, rfl, rfl⟩
  · exact reading
  · rw [GetsReply.store_code] at returned
    refine ⟨?_, ?_⟩
    · rw [recorded]
      exact history.reads returned
    · rw [recorded, nameBuffer_gets]

theorem jvGets_reads (attemptsLeft : Nat) (filename : Bytes)
    {thrown : Exception → World κ ρ → Prop} :
    Ensures (World.Reading filename) (jvGets jv attemptsLeft none filename)
      (World.AfterGets attemptsLeft filename) thrown := by
  refine Ensures.bind Ensures.peek fun world => ?_
  refine Ensures.ite (fun _ => Ensures.pure fun _ reading => .inl ⟨rfl, reading⟩) fun _ => ?_
  refine Ensures.bind ((reading_beside filename).anyEnv.ask _) fun reply => ?_
  have recorded : Ensures (World.Reading filename) (recordFile (.gets attemptsLeft reply))
      (fun _ => World.AfterGets attemptsLeft filename (reply.store none filename)) thrown :=
    Ensures.update fun world ⟨history, buffered⟩ =>
      .inr ⟨world.files, reply, rfl, history, buffered, rfl⟩
  exact Ensures.bind recorded fun _ => Ensures.pure fun _ after => after

/-- The deletion after a damaged file. -/
theorem performJVFiledelete_reads (attemptsLeft : Nat) {filename : Bytes} {result : GetsResult}
    (corrupted : isFileCorrupted result.code = true) {thrown : Exception → World κ ρ → Prop} :
    Ensures (World.AfterGets (attemptsLeft + 1) filename result)
      (performJVFiledelete jv result.filename) (fun _ => World.Reading result.filename) thrown := by
  have recorded : Ensures (World.AfterGets (attemptsLeft + 1) filename result)
      (recordFile (κ := κ) (ρ := ρ) (.filedelete result.filename))
      (fun _ => World.Reading result.filename) thrown := by
    refine Ensures.update fun world after => ?_
    rcases after with ⟨rfl, -⟩ | ⟨files, reply, recorded, history, rfl, rfl⟩
    · exact absurd (show isFileCorrupted (-999) = true from corrupted) (by decide)
    · rw [GetsReply.store_code] at corrupted
      rw [GetsReply.store_corrupted corrupted]
      refine ⟨?_, ?_⟩
      · change FileHistory (world.files ++ _)
        rw [recorded]
        exact history.recovers corrupted
      · change _ = nameBuffer (world.files ++ _)
        rw [recorded, nameBuffer_filedelete, nameBuffer_gets, GetsReply.store_corrupted corrupted]
  refine Ensures.bind recorded fun _ => ?_
  exact Ensures.bind ((reading_beside _).anyEnv.invokeMethod _) fun _ => Ensures.pure fun _ holds => holds

theorem jvGetsAttempts_reads (attemptsLeft : Nat) (filename : Bytes)
    {thrown : Exception → World κ ρ → Prop} :
    Ensures (World.Reading filename) (jvGetsAttempts jv attemptsLeft filename)
      (fun result => World.Reading result.filename) thrown := by
  induction attemptsLeft generalizing filename with
  | zero =>
      exact (jvGets_reads 0 filename).mono (fun _ reading => reading)
        (fun _ _ after => after.reading (.inl rfl)) fun _ _ thrown => thrown
  | succ attemptsLeft ih =>
      refine Ensures.bind (jvGets_reads (attemptsLeft + 1) filename) fun result => ?_
      refine Ensures.ite (fun corrupted => ?_) fun intact => ?_
      · exact Ensures.bind (performJVFiledelete_reads attemptsLeft corrupted) fun _ => ih _
      · exact Ensures.pure fun _ after => after.reading (.inr (by simpa using intact))

theorem jvGetsWithRetry_reads (filename : Bytes) {thrown : Exception → World κ ρ → Prop} :
    Ensures (World.Reading filename) (jvGetsWithRetry jv filename)
      (fun result => World.Reading result.filename) thrown :=
  Ensures.bind Ensures.peek fun _ => jvGetsAttempts_reads _ filename

section CallBacks

variable {kept : World κ ρ → Prop} (onFiles : OnFiles kept)
include onFiles

theorem OnFiles.callBack {α : Type} (action : EStateM Exception ρ α) :
    Keeps kept (callBack action) := by
  intro world holds
  unfold Core.callBack
  split <;> exact onFiles world _ rfl holds

theorem OnFiles.shouldCancel : Keeps kept (shouldCancel client) :=
  Keeps.bind onFiles.beside.observe fun _ => onFiles.callBack _

theorem OnFiles.metaCallback (result : JVQueryResult) : Keeps kept (metaCallback client result) :=
  Keeps.bind onFiles.beside.observe fun _ => onFiles.callBack _

theorem OnFiles.recordCallback (record : Bytes) : Keeps kept (recordCallback client record) :=
  Keeps.bind onFiles.beside.observe fun _ => onFiles.callBack _

end CallBacks

/-- A call that does not touch the record, seen from outside. -/
theorem invokeComCall_reading {α : Type} {filename : Bytes} {callable : Action κ ρ α}
    (runs : Ensures (World.Reading filename) callable (fun _ => World.Reading filename)
      fun _ _ => False) (operationName : String) (timeout : TimeoutConfig → Nat) :
    Ensures (World.Reading filename) (invokeComCall jv operationName timeout callable)
      (fun _ => World.Reading filename) (fun _ => World.Recorded) :=
  ((reading_beside filename).invokeComCall runs operationName timeout).raise
    fun _ _ thrown => thrown.2.1

theorem corruption_rules :
    StreamRules jv client query World.Reading World.Recorded World.Recorded
      (fun _ => World.Recorded) (fun _ => World.Recorded (κ := κ)) where
  opens := invokeComCall_reading ((reading_beside _).anyEnv.performJVOpen _ _ _) _ _
  status := invokeComCall_reading (reading_beside _).anyEnv.performJVStatus _ _
  abandons := Ensures.attempt ((recorded_onFiles.beside.invokeComCall
    (recorded_onFiles.beside.anyEnv.reads _) _ _).raise fun _ _ thrown => thrown.2)
  gets filename :=
    (invokeComCall_rule (reading_beside filename).aside recorded_onFiles.beside.aside
      (fun _ reading => reading.1) (fun _ _ reading => reading.1) (jvGetsWithRetry_reads filename)
      (fun result => (reading_beside result.filename).aside) _ _).raise fun _ _ thrown => thrown.2
  skips filename := invokeComCall_reading ((reading_beside _).anyEnv.reads _) _ _
  polls filename := by
    refine (reading_onFiles filename).shouldCancel.mono (fun _ reading => reading)
      (fun answer _ reading => ?_) fun _ _ reading => reading.1
    cases answer with
    | true => exact reading.1
    | false => exact reading
  pollsAgain := recorded_onFiles.shouldCancel.mono (fun _ recorded => recorded)
    (fun answer _ recorded => by cases answer <;> exact recorded) fun _ _ recorded => recorded
  describes result _ :=
    ((reading_onFiles _).metaCallback result).raise fun _ _ reading => reading.1
  fails result _ _ := (recorded_onFiles.metaCallback result).mono
    (fun _ either => either.elim And.left id) (fun _ _ recorded => recorded)
    fun _ _ recorded => recorded
  records filename record :=
    ((reading_onFiles filename).recordCallback record).raise fun _ _ reading => reading.1
  cancels _ _ recorded := recorded
  breaks _ _ _ _ reading := reading.1
  goesOn _ _ reading := reading.1
  completes _ _ _ _ reading := reading.1

theorem queryStored_recorded (fuel : Nat) :
    Ensures (World.Reading []) (queryStored jv client query fuel) (fun _ => World.Recorded (κ := κ))
      (fun _ => World.Recorded) := by
  have closes (world : World κ ρ) (recorded : world.Recorded) :
      (finalState (closeSession jv world)).Recorded :=
    ((recorded_onFiles.beside.closeSession.raise fun _ _ none => none.elim) world recorded).finalState
  refine Ensures.bind Ensures.peek fun world => ?_
  refine Ensures.ite (fun _ => ?_) fun _ => ?_
  · have described : Keeps (World.Recorded (κ := κ))
        (metaCallback client { errorMessage := "JVLinkWrapper not initialized" }) :=
      recorded_onFiles.metaCallback _
    exact Ensures.bind (described.mono (fun _ reading => reading.1) (fun _ _ recorded => recorded)
      fun _ _ recorded => recorded) fun _ => Ensures.pure fun _ recorded => recorded
  · refine Ensures.afterwards (corruption_rules.openAndStream fuel) (fun _ => closes) ?_
    intro exception world recorded
    split
    · exact closes world recorded
    · exact recorded

/-- Over every sequence of replies: recovery deletes only damaged files if and only
if each damaged file it acts on goes by the name in the buffer. -/
theorem recovery_deletes_only_corrupted_iff (world : World κ ρ) (fuel : Nat) :
    let final := finalState (queryStored jv client query fuel { world with files := [] })
    DeletesOnlyCorrupted final.files ↔ CorruptionNamed final.files := by
  have started : World.Reading [] { world with files := [] } := ⟨.start, rfl⟩
  exact (queryStored_recorded fuel _ started).finalState.deletesOnlyCorrupted_iff

end Stream

/-! ## A damaged file after a good one -/

/-- A JV-Link that answers `JVGets` from a script and everything else with success. -/
def scriptedJVLink : JVLink (List GetsReply) where
  now script := (1700000000, script)
  taskFate _ script := (.completes, script)
  createInstance script := (true, script)
  adviseEventSink script := (true, script)
  jvInit _ script := (.long 0, script)
  jvOpen _ _ _ script := ({ result := .long 0, readCount := 2 }, script)
  jvrtOpen _ _ script := (.long 0, script)
  jvStatus script := (.long 0, script)
  jvCancel script := (.long 0, script)
  jvGets script := (script.headD { result := .long 0 }, script.tail)
  jvSkip script := (.long 0, script)
  jvFiledelete _ script := (.long 0, script)
  jvClose script := (.long 0, script)
  jvWatchEvent script := (.long 0, script)
  jvWatchEventClose script := (.long 0, script)
  jvFukuFile _ _ script := (.long 0, script)
  jvFuku _ script := (.long 0, script)
  jvCourseFile _ script := (.long 0, script)
  jvCourseFile2 _ _ script := (.long 0, script)

def patientClient : StreamClient Unit where
  recordCallback _ := return ()
  metaCallback _ := return ()
  cancelRequested := return false

def raceQuery : StoredQuery where
  dataspec := utf8 "RACE"
  fromdate := utf8 "20240101"
  option := 1
  maxRecords := 10

def initializedWorld (script : List GetsReply) : World (List GetsReply) Unit where
  wrapper := { dispatch := true, isInitialized := true }
  worker := { running := true, acceptingTasks := true }
  env := script
  client := ()

def goodReply : GetsReply where
  result := .long 2
  safeArray := .bytes (utf8 "RA")
  filename := some (utf8 "RA24.jvd")

def damagedReply : GetsReply where
  result := .long (-402)
  filename := some (utf8 "SE24.jvd")

/-- A record of one file and the damage of another: the first file is deleted. -/
theorem recovery_deletes_good_file :
    ¬ ∀ script, DeletesOnlyCorrupted
      (finalState (queryStored scriptedJVLink patientClient raceQuery 5
        (initializedWorld script))).files := by
  intro spares
  have recorded : (finalState (queryStored scriptedJVLink patientClient raceQuery 5
      (initializedWorld [goodReply, damagedReply]))).files =
        [.gets 2 goodReply, .gets 2 damagedReply] ++
          .filedelete (utf8 "RA24.jvd") :: [.gets 1 { result := .long 0 }] := by decide +kernel
  have deleted := spares _ _ _ _ recorded (utf8 "RA24.jvd") rfl
  obtain ⟨attemptsLeft, reply, last, -, reported⟩ := deleted.corrupted
  obtain ⟨rfl, rfl⟩ : 2 = attemptsLeft ∧ damagedReply = reply := by simpa using last
  exact absurd reported (by decide)

end JVLinkServer.Core
