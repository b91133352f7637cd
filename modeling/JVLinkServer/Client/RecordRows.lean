import JVLinkServer.Client.StoredRows

namespace JVLinkServer.Client

open Effects Json JVLinkServer.Core JVLinkServer.Records Lines Worker

/-! # One row for one record

Whatever a query passes on, each record has a line of its own, and the client a row for each
line, as long as the two bytes that name the type of a record are a text.
-/

/-- What a query asks of its client after the metadata.  A poll may end it with a message. -/
inductive Callback
  | poll (message : String)
  | record (rawData : Bytes)

def Callback.rawData? : Callback → Option Bytes
  | poll _ => none
  | record rawData => some rawData

/-- The records that are passed on. -/
def recordsOf (callbacks : List Callback) : List Bytes := callbacks.filterMap Callback.rawData?

/-- The first two bytes. -/
def leadingType (rawData : Bytes) : Bytes :=
  if rawData.length < 2 then utf8 "UNKNOWN" else rawData.take 2

section Stream

variable {ν : Type} (connection : Connection ν) (codePage : Bytes → Option Bytes)

def answerCallback : Callback → StreamAction ν Unit
  | .poll message => do
      if ← cancelRequested connection then EStateM.throw (.jvOperationCanceled message)
  | .record rawData => streamRecord connection (recordParser codePage) rawData

/-- The metadata and then the callbacks, in the order in which the query makes them. -/
def streamCallbacks (result : JVQueryResult) (callbacks : List Callback) : StreamAction ν Unit := do
  streamMeta connection result
  callbacks.forM (answerCallback connection codePage)

variable {connection codePage}

theorem answerCallback_whole {lines : List Bytes} (callback : Callback) :
    Ensures (ShowsWhole lines) (answerCallback connection codePage callback)
      (fun _ => ShowsWhole (lines ++ recordLines (recordParser codePage) (recordsOf [callback])))
      fun _ _ => True := by
  cases callback with
  | poll message =>
      refine Ensures.bind (cancelRequested_shows connection) fun canceled => ?_
      refine Ensures.ite (fun _ => Ensures.throw fun _ _ => trivial) fun _ => Ensures.pure ?_
      intro stream whole
      have nothing : recordLines (recordParser codePage) (recordsOf [.poll message]) = [] := rfl
      rwa [nothing, List.append_nil]
  | record rawData =>
      have line : recordLines (recordParser codePage) (recordsOf [.record rawData]) =
          (recordLine? (recordParser codePage) rawData).toList := by
        cases found : recordLine? (recordParser codePage) rawData <;>
          simp [recordsOf, Callback.rawData?, recordLines, found]
      rw [line]
      exact (streamRecord_whole rawData).raise fun _ _ _ => trivial

theorem callbacks_whole (callbacks : List Callback) {lines : List Bytes} :
    Ensures (ShowsWhole lines) (callbacks.forM (answerCallback connection codePage))
      (fun _ => ShowsWhole (lines ++ recordLines (recordParser codePage) (recordsOf callbacks)))
      fun _ _ => True := by
  induction callbacks generalizing lines with
  | nil =>
      refine Ensures.pure fun stream whole => ?_
      simpa [recordsOf, recordLines] using whole
  | cons callback callbacks ih =>
      have parts : recordsOf (callback :: callbacks) =
          recordsOf [callback] ++ recordsOf callbacks := by
        rw [recordsOf, recordsOf, recordsOf, ← List.filterMap_append, List.singleton_append]
      rw [parts, recordLines_append, ← List.append_assoc]
      change Ensures _
        (answerCallback connection codePage callback >>= fun _ => callbacks.forM _) _ _
      exact Ensures.bind (answerCallback_whole callback) fun _ => ih

/-- Over every run in which the client stays: the lines are those of the metadata and of the
records. -/
theorem streamCallbacks_lines {result : JVQueryResult} (succeeded : result.success = true)
    {callbacks : List Callback} {network : ν} {after : StoredStream ν}
    (stayed : streamCallbacks connection codePage result callbacks { network } = .ok () after) :
    solidLines newline after.out.flatten =
      (metaJson result).render :: recordLines (recordParser codePage) (recordsOf callbacks) := by
  have described : Ensures (ShowsWhole []) (streamMeta connection result)
      (fun _ => ShowsWhole [(metaJson result).render]) fun _ _ => True := by
    cases dumped : (metaJson result).dump with
    | error message =>
        unfold streamMeta
        rw [dumped]
        exact Ensures.throw fun _ _ => trivial
    | ok body =>
        have printed : body = (metaJson result).render := by
          unfold dump at dumped
          split at dumped
          · exact (Except.ok.inj dumped).symm
          · cases dumped
        rw [← printed]
        exact (streamMeta_whole succeeded dumped).raise fun _ _ _ => trivial
  have streams : Ensures (ShowsWhole []) (streamCallbacks connection codePage result callbacks)
      (fun _ => ShowsWhole
        ((metaJson result).render :: recordLines (recordParser codePage) (recordsOf callbacks)))
      fun _ _ => True :=
    Ensures.bind described fun _ => callbacks_whole callbacks
  have ended := streams { network } ⟨rfl, rfl⟩
  rw [stayed] at ended
  exact ended.1

end Stream

/-! ## What the client reads -/

section Rows

variable (python : PythonStr) (library : PythonLibrary) (codePage : Bytes → Option Bytes)
  (result : JVQueryResult) (records : List Bytes) (body : Bytes)

/-- Each record has one line and one row, of its type. -/
structure OneRowEach : Prop where
  lines : ∃ lines, solidLines newline body = (metaJson result).render :: lines ∧
    List.Forall₂ (fun record line => (storedRow codePage record).dump = .ok line) records lines
  rows : ∃ answer,
    (received python library { status := 200, lines := textLines body }).1 = .ok answer ∧
      answer.failure = none ∧
      List.Forall₂ (fun record row => row.member? "type" = some (.string (leadingType record)))
        records answer.rows

end Rows

section Rows

variable {codePage : Bytes → Option Bytes}

theorem typeOf_eq (record : Bytes) : typeOf codePage record = leadingType record :=
  recordRow_type _ record

theorem unbroken_leading_iff {record : Bytes} :
    UnbrokenText (leadingType record) ↔ (2 ≤ record.length → UnbrokenText (record.take 2)) := by
  unfold leadingType
  split
  · refine iff_of_true ?_ fun two => by omega
    exact (isLine_printable (by decide)).unbroken
  · exact ⟨fun unbroken _ => unbroken, fun unbroken => unbroken (by omega)⟩

theorem storedRow_type (record : Bytes) :
    (storedRow codePage record).member? "type" = some (.string (leadingType record)) := by
  rw [storedRow, recordJson_members, ← typeOf_eq]
  rfl

variable (converts : Converts codePage)
include converts

/-- Readable types are printed. -/
theorem dump_storedRow {record : Bytes} (readable : UnbrokenText (typeOf codePage record)) :
    (storedRow codePage record).dump = .ok (storedRow codePage record).render := by
  rw [dump, isText_of_unbroken _ (unbroken_storedRow converts readable), if_pos rfl]

theorem recordLines_readable {records : List Bytes}
    (readable : ∀ record ∈ records, UnbrokenText (typeOf codePage record)) :
    List.Forall₂ (fun record line => (storedRow codePage record).dump = .ok line) records
      (recordLines (recordParser codePage) records) := by
  induction records with
  | nil => exact .nil
  | cons record records ih =>
      rw [List.forall_mem_cons] at readable
      have printed := dump_storedRow converts readable.1
      have line : recordLine? (recordParser codePage) record =
          some (storedRow codePage record).render := by
        change (storedRow codePage record).dump.toOption = _
        rw [printed]
        rfl
      rw [recordLines, List.filterMap_cons, line]
      exact .cons printed (ih readable.2)

end Rows

/-- Whatever records and polls follow the metadata while the client stays: each record has one
line and one row exactly when the timestamp and the two bytes before each record are texts on
one line. -/
theorem one_row_each_iff {ν : Type} (library : PythonLibrary) (reads : ReadsJson library.loads)
    (python : PythonStr) (codePage : Bytes → Option Bytes) (converts : Converts codePage)
    (connection : Connection ν) (network : ν) {result : JVQueryResult}
    (succeeded : result.success = true) (callbacks : List Callback) {after : StoredStream ν}
    (stayed : streamCallbacks connection codePage result callbacks { network } = .ok () after) :
    OneRowEach python library codePage result (recordsOf callbacks) after.out.flatten ↔
      UnbrokenText (utf8 result.lastFileTimestamp) ∧
        ∀ record ∈ recordsOf callbacks, 2 ≤ record.length → UnbrokenText (record.take 2) := by
  have written := streamCallbacks_lines succeeded stayed
  generalize recordsOf callbacks = records at written ⊢
  have types : (∀ record ∈ records, UnbrokenText (typeOf codePage record)) ↔
      ∀ record ∈ records, 2 ≤ record.length → UnbrokenText (record.take 2) := by
    simp only [typeOf_eq, unbroken_leading_iff]
  rw [← types]
  constructor
  · rintro ⟨-, answer, read, -, rows⟩
    by_cases readable : UnbrokenText (utf8 result.lastFileTimestamp)
    · rw [received_readable reads python converts succeeded written readable] at read
      obtain rfl := Except.ok.inj read
      exact ⟨readable, readable_of_length reads python converts rows.length_eq.symm⟩
    · obtain ⟨exception, failed⟩ :=
        received_unreadable reads python converts succeeded written readable
      rw [failed] at read
      cases read
  · rintro ⟨readable, each⟩
    have rows := (readRecords_iff reads python converts records).mpr each
    refine ⟨⟨_, written, recordLines_readable converts each⟩, _,
      received_readable reads python converts succeeded written readable, ?_, ?_⟩
    · rw [rows]
    · rw [rows, List.forall₂_map_right_iff]
      exact List.forall₂_same.mpr fun record _ => storedRow_type record

/-- Records of a known and of an unknown type, one that is short, and a poll. -/
def mixedCallbacks : List Callback :=
  [.record (utf8 "HY1202608012019105224ASANO HI NO TORI"), .poll "Canceled by client",
    .record (utf8 "Z"), .record (utf8 "ZZ0")]

def describedQuery : JVQueryResult := { success := true, lastFileTimestamp := "20260801120000" }

def mixedRun : EStateM.Result Exception (StoredStream Unit) Unit :=
  streamCallbacks openConnection printablePage describedQuery mixedCallbacks { network := () }

theorem one_row_each_iff_mixed :
    OneRowEach plainText plainLibrary printablePage describedQuery (recordsOf mixedCallbacks)
      (finalState mixedRun).out.flatten := by
  have returned : returned? mixedRun = some () := by decide +kernel
  have stayed : mixedRun = .ok () (finalState mixedRun) := ok_of_returned returned
  apply (one_row_each_iff plainLibrary plainJson_reads plainText printablePage
    printablePage_converts openConnection () rfl mixedCallbacks stayed).mpr
  have plain {text : Bytes} (printable : text.all isPrintable = true) : UnbrokenText text :=
    (isLine_printable printable).unbroken
  refine ⟨plain (by decide), ?_⟩
  simp only [recordsOf, mixedCallbacks, List.filterMap_cons, Callback.rawData?, List.filterMap_nil,
    List.forall_mem_cons]
  exact ⟨fun _ => plain (by decide), fun _ => plain (by decide), fun _ => plain (by decide),
    by simp⟩

/-- The bytes of katakana in code page 932 are no text. -/
theorem katakana_type_swallowed :
    ¬ ∀ (codePage : Bytes → Option Bytes) (result : JVQueryResult) (callbacks : List Callback)
      (after : StoredStream Unit), Converts codePage → result.success = true →
      streamCallbacks openConnection codePage result callbacks { network := () } = .ok () after →
      OneRowEach plainText plainLibrary codePage result (recordsOf callbacks)
        after.out.flatten := by
  intro each
  let run := streamCallbacks openConnection printablePage describedQuery
    [.record [0x83, 0x4a, 0x83, 0x5e]] { network := () }
  have returned : returned? run = some () := by decide +kernel
  have stayed := ok_of_returned returned
  have one := each printablePage describedQuery _ _ printablePage_converts rfl stayed
  obtain ⟨lines, shown, forall₂⟩ := one.lines
  have written : solidLines newline (finalState run).out.flatten =
      [(metaJson describedQuery).render] := by decide +kernel
  rw [written] at shown
  obtain rfl : lines = [] := (List.cons.inj shown).2.symm
  cases forall₂

end JVLinkServer.Client
