import JVLinkServer.Core.RecordDelivery
import JVLinkServer.Worker.StoredProtocol

namespace JVLinkServer.Worker

open Effects JVLinkServer.Core Lines

/-! # A line for each record

The response of a stored query has the lines of the records that `JVGets` has returned, in
their order.  Only the last record may be missing from it, when the query is left by an
exception.
-/

/-- The line of a record, if its callback writes one. -/
def recordLine? (parser : RecordParser) (record : Bytes) : Option Bytes :=
  match parser.parseRecord record with
  | .ok (some (type, data)) => (recordJson type data).dump.toOption
  | .ok none | .error _ => none

def recordLines (parser : RecordParser) (records : List Bytes) : List Bytes :=
  records.filterMap (recordLine? parser)

/-- A metadata line and those of the records. -/
def StreamedWith (parser : RecordParser) (records lines : List Bytes) : Prop :=
  ∃ first, MetaLine first ∧ lines = first :: recordLines parser records

def UnendedWith (parser : RecordParser) (records lines : List Bytes) : Prop :=
  records = [] ∧ lines = [] ∨ StreamedWith parser records lines

def RespondsWith (parser : RecordParser) (records lines : List Bytes) : Prop :=
  UnendedWith parser records lines ∨
    ∃ before line, UnendedWith parser records before ∧ ErrorLine line ∧ lines = before ++ [line]

section Callbacks

variable {ν : Type} {connection : Connection ν} {parser : RecordParser}
  {records lines before : List Bytes} {body : Bytes} {thrown : Exception → StoredStream ν → Prop}

/-- The client of the stream reads these lines, the last of which may not have ended. -/
def ShowsRecords (parser : RecordParser) (records : List Bytes) (stream : StoredStream ν) : Prop :=
  ∃ lines, RespondsWith parser records lines ∧ Shows lines stream

def ShowsStreamed (parser : RecordParser) (records : List Bytes) (stream : StoredStream ν) : Prop :=
  ∃ lines, StreamedWith parser records lines ∧ ShowsWhole lines stream

/-- What is in the stream when an exception leaves the query. -/
def LeftRecords (parser : RecordParser) (records : List Bytes) (exception : Exception)
    (stream : StoredStream ν) : Prop :=
  (∃ lines, UnendedWith parser records lines ∧ ShowsWhole lines stream) ∨
    exception = .clientDisconnected ∧ ShowsRecords parser records stream

theorem disconnect_records {post : Unit → StoredStream ν → Prop} {kept : StoredStream ν → Prop}
    (noting : ∀ stream, kept stream → kept { stream with clientDisconnected := true })
    (left : ∀ stream, kept stream → thrown .clientDisconnected stream) :
    Ensures kept (disconnect : StreamAction ν Unit) post thrown :=
  Ensures.bind (Ensures.update noting) fun _ => Ensures.throw left

/-- A callback that writes a line or leaves. -/
theorem writeLine_records (oneLine : OneLine body)
    (without : ∀ stream, Shows before stream → thrown .clientDisconnected stream)
    (withIt : ∀ stream, Shows (before ++ [body]) stream → thrown .clientDisconnected stream) :
    Ensures (ShowsWhole before)
      (do if !(← writeLine connection body) then disconnect : StreamAction ν Unit)
      (fun _ => ShowsWhole (before ++ [body])) thrown := by
  refine Ensures.bind (writeLine_shows oneLine) fun written => ?_
  cases written with
  | true => exact Ensures.pure fun _ whole => whole
  | false =>
      apply disconnect_records
      · exact fun _ shows => shows
      · exact fun stream shows => shows.elim (without stream) (withIt stream)

/-- What leaves a callback that wrote a line, or did not. -/
def LeftBetween (before after : List Bytes) (exception : Exception) (stream : StoredStream ν) :
    Prop :=
  exception = .clientDisconnected ∧ (Shows before stream ∨ Shows after stream)

theorem streamMeta_whole {result : JVQueryResult} (succeeded : result.success = true)
    (dumped : (metaJson result).dump = .ok body) :
    Ensures (ShowsWhole []) (streamMeta connection result) (fun _ => ShowsWhole [body])
      (LeftBetween (ν := ν) [] [body]) := by
  have oneLine := oneLine_of_dump (metaJson_oneLine result) (metaJson_isObject result) dumped
  unfold streamMeta
  simp only [dumped, succeeded]
  apply writeLine_records oneLine
  · exact fun _ shows => ⟨rfl, .inl shows⟩
  · exact fun _ shows => ⟨rfl, .inr shows⟩

theorem streamMeta_describes_records {result : JVQueryResult} (succeeded : result.success = true) :
    Ensures (ShowsWhole []) (streamMeta connection result) (fun _ => ShowsStreamed parser [])
      (LeftRecords parser []) := by
  cases dumped : (metaJson result).dump with
  | error message =>
      unfold streamMeta
      rw [dumped]
      exact Ensures.throw fun stream whole => .inl ⟨[], .inl ⟨rfl, rfl⟩, whole⟩
  | ok body =>
      have streamed : StreamedWith parser [] [body] := ⟨body, ⟨result, succeeded, dumped⟩, rfl⟩
      apply (streamMeta_whole succeeded dumped).mono (fun _ whole => whole)
        fun _ _ whole => ⟨[body], streamed, whole⟩
      rintro _ stream ⟨rfl, shows | shows⟩
      · exact .inr ⟨rfl, [], .inl (.inl ⟨rfl, rfl⟩), shows⟩
      · exact .inr ⟨rfl, [body], .inl (.inr streamed), shows⟩

theorem streamMeta_fails_records {result : JVQueryResult} (failed : result.success = false) :
    Ensures (ShowsWhole []) (streamMeta connection result)
      (fun _ stream => ∃ line, ErrorLine line ∧ ShowsWhole [line] stream)
      (LeftRecords parser []) := by
  unfold streamMeta
  cases dumped : (metaJson result).dump with
  | error message => exact Ensures.throw fun stream whole => .inl ⟨[], .inl ⟨rfl, rfl⟩, whole⟩
  | ok body =>
      have error : ErrorLine body := by
        refine ⟨result.errorMessage, result.errorCode, ?_⟩
        rw [metaJson, failed] at dumped
        exact dumped
      have told : RespondsWith parser [] [body] := .inr ⟨[], body, .inl ⟨rfl, rfl⟩, error, rfl⟩
      have noted : Ensures (ShowsWhole [body])
          (update fun stream => { stream with errorLine := true } : StreamAction ν Unit)
          (fun _ stream => ∃ line, ErrorLine line ∧ ShowsWhole [line] stream)
          (LeftRecords parser []) := Ensures.update fun stream whole => ⟨body, error, whole⟩
      simp only [failed]
      refine Ensures.bind (writeLine_shows (oneLine_of_dump (metaJson_oneLine result)
        (metaJson_isObject result) dumped)) fun written => ?_
      cases written with
      | true => exact noted
      | false =>
          have left : Ensures (fun stream : StoredStream ν => Shows [] stream ∨ Shows [body] stream)
              (disconnect : StreamAction ν Unit) (fun _ => ShowsWhole [body])
              (LeftRecords parser []) := by
            apply disconnect_records
            · exact fun _ shows => shows
            · intro stream shows
              refine .inr ⟨rfl, ?_⟩
              exact shows.elim (fun none => ⟨[], .inl (.inl ⟨rfl, rfl⟩), none⟩)
                fun one => ⟨[body], told, one⟩
          exact Ensures.bind left fun _ => noted

theorem recordLines_append (earlier later : List Bytes) :
    recordLines parser (earlier ++ later) =
      recordLines parser earlier ++ recordLines parser later :=
  List.filterMap_append

/-- The callback of a record adds its line, if it has one. -/
theorem streamRecord_whole (record : Bytes) :
    Ensures (ShowsWhole lines) (streamRecord connection parser record)
      (fun _ => ShowsWhole (lines ++ (recordLine? parser record).toList))
      (LeftBetween (ν := ν) lines (lines ++ (recordLine? parser record).toList)) := by
  -- What follows the look at the sink.
  have before {rest : StreamAction ν Unit}
      (parsed : Ensures (ShowsWhole lines) rest
        (fun _ => ShowsWhole (lines ++ (recordLine? parser record).toList))
        (LeftBetween lines (lines ++ (recordLine? parser record).toList))) :
      Ensures (ShowsWhole lines)
        (sinkIsWritable connection >>= fun writable =>
          if !writable then disconnect >>= fun (_ : Unit) => rest else rest)
        (fun _ => ShowsWhole (lines ++ (recordLine? parser record).toList))
        (LeftBetween lines (lines ++ (recordLine? parser record).toList)) := by
    refine Ensures.bind sinkIsWritable_showsWhole fun writable => ?_
    refine Ensures.ite (fun _ => ?_) fun _ => parsed
    refine Ensures.bind (disconnect_records (fun _ whole => whole) ?_) fun _ => parsed
    exact fun stream whole => ⟨rfl, .inl whole.1⟩
  have silent (none : recordLine? parser record = none)
      {thrown : Exception → StoredStream ν → Prop} :
      Ensures (ShowsWhole lines) (pure () : StreamAction ν Unit)
        (fun _ => ShowsWhole (lines ++ (recordLine? parser record).toList)) thrown := by
    rw [none]
    exact Ensures.pure fun stream whole => by simpa using whole
  refine before ?_
  cases parsed : parser.parseRecord record with
  | error message => exact silent (by simp [recordLine?, parsed])
  | ok found =>
      cases found with
      | none => exact silent (by simp [recordLine?, parsed])
      | some row =>
          cases dumped : (recordJson row.1 row.2).dump with
          | error message =>
              simp only [dumped]
              exact silent (by simp [recordLine?, parsed, dumped, Except.toOption])
          | ok body =>
              have line : recordLine? parser record = some body := by
                simp [recordLine?, parsed, dumped, Except.toOption]
              rw [line]
              simp only [dumped]
              apply writeLine_records
              · exact oneLine_of_dump (recordJson_oneLine (parser.oneLine _ _ _ parsed)) rfl dumped
              · exact fun _ shows => ⟨rfl, .inl shows⟩
              · exact fun _ shows => ⟨rfl, .inr shows⟩

theorem streamRecord_records (record : Bytes) :
    Ensures (ShowsStreamed (ν := ν) parser records) (streamRecord connection parser record)
      (fun _ => ShowsStreamed parser (records ++ [record]))
      (fun exception stream => LeftRecords parser records exception stream ∨
        LeftRecords parser (records ++ [record]) exception stream) := by
  intro stream shown
  obtain ⟨lines, streamed, whole⟩ := shown
  have lined : StreamedWith parser (records ++ [record])
      (lines ++ (recordLine? parser record).toList) := by
    obtain ⟨first, described, rfl⟩ := streamed
    refine ⟨first, described, ?_⟩
    rw [recordLines_append, List.cons_append]
    cases found : recordLine? parser record <;> simp [recordLines, found]
  apply (streamRecord_whole record stream whole).mono fun _ _ whole => ⟨_, lined, whole⟩
  rintro _ stream ⟨rfl, shows | shows⟩
  · exact .inl (.inr ⟨rfl, lines, .inl (.inr streamed), shows⟩)
  · exact .inr (.inr ⟨rfl, _, .inl (.inr lined), shows⟩)

variable (connection parser) in
theorem stream_receives :
    ClientReceives (streamClient connection parser) (ShowsWhole []) (ShowsStreamed parser)
      (LeftRecords parser) where
  pollsOpening := cancelRequested_shows connection
  describes _ := streamMeta_describes_records
  records _ := streamRecord_records
  pollsReading records := by
    intro stream shown
    obtain ⟨lines, streamed, whole⟩ := shown
    exact (cancelRequested_shows connection stream whole).mono
      (fun _ _ whole => ⟨lines, streamed, whole⟩) fun _ _ left => left
  leavesOpening _ _ _ whole := .inl ⟨[], .inl ⟨rfl, rfl⟩, whole⟩
  leaves _ _ _ _ shown := by
    obtain ⟨lines, streamed, whole⟩ := shown
    exact .inl ⟨lines, .inr streamed, whole⟩

/-! ## The error at the end -/

/-- An error line is added, or nothing. -/
theorem writeStreamErrorLine_shows (message : String) (code : Int) :
    Ensures (ShowsWhole lines) (writeStreamErrorLine connection message code)
      (fun _ stream => Shows lines stream ∨ ∃ line, ErrorLine line ∧ Shows (lines ++ [line]) stream)
      (fun _ => ShowsWhole lines) := by
  unfold writeStreamErrorLine
  refine Ensures.bind sinkIsWritable_showsWhole fun writable => ?_
  refine Ensures.ite (fun _ => Ensures.pure fun _ whole => .inl whole.1) fun _ => ?_
  cases dumped : (streamErrorJson message code).dump with
  | error message => exact Ensures.throw fun _ whole => whole
  | ok line =>
      have oneLine := oneLine_of_dump (streamErrorJson_oneLine message code) rfl dumped
      refine Ensures.bind sinkIsWritable_showsWhole fun writable => ?_
      refine Ensures.ite (fun _ => Ensures.pure fun _ whole => .inl whole.1) fun _ => ?_
      have ended {shown : List Bytes} : Ensures (Shows shown) (sinkWrite connection [newline])
          (fun _ => Shows shown) fun _ => ShowsWhole lines := by
        apply (sinkWrite_shows [newline] (fun _ _ shows => shows) (fun _ shows => shows) ?_).mono
          (fun _ shows => shows) ?_ fun _ _ thrown => thrown
        · exact Shows shown
        · intro stream shows
          rw [Shows, reader_append]
          exact solid_separator.trans shows
        · intro written stream shows
          cases written <;> exact shows
      refine Ensures.bind (sinkWrite_body oneLine) fun written => ?_
      cases written with
      | true =>
          have noted : Ensures (Shows (lines ++ [line]))
              (update fun stream => { stream with errorLine := true } : StreamAction ν Unit)
              (fun _ => Shows (lines ++ [line])) fun _ => ShowsWhole lines :=
            Ensures.update fun _ shows => shows
          refine Ensures.bind noted fun _ => Ensures.bind ended fun _ => Ensures.pure ?_
          exact fun _ shows => .inr ⟨line, ⟨message, code, dumped⟩, shows⟩
      | false =>
          refine Ensures.bind (ended.mono (fun _ whole => whole.1) (fun _ _ shows => shows)
            fun _ _ thrown => thrown) fun _ => Ensures.pure ?_
          exact fun _ shows => .inl shows

theorem writeStreamErrorLine_records (unended : UnendedWith parser records lines)
    (message : String) (code : Int) :
    Ensures (ShowsWhole lines) (writeStreamErrorLine connection message code)
      (fun _ => ShowsRecords parser records) (fun _ => ShowsRecords parser records) := by
  apply (writeStreamErrorLine_shows message code).mono (fun _ whole => whole)
  · intro _ stream shows
    rcases shows with shows | ⟨line, error, shows⟩
    · exact ⟨lines, .inl unended, shows⟩
    · exact ⟨_, .inr ⟨lines, line, unended, error, rfl⟩, shows⟩
  · exact fun _ stream whole => ⟨lines, .inl unended, whole.1⟩

end Callbacks

/-! ## The whole response -/

section Response

variable {κ ν : Type} {jv : JVLink κ} {connection : Connection ν} {parser : RecordParser}
  {query : StoredQuery} {read : List Bytes}

/-- The response has the lines of the records, apart from the last perhaps. -/
def AllButLast (query : StoredQuery) (parser : RecordParser) (read : List Bytes)
    (world : World κ (StoredStream ν)) : Prop :=
  ∃ records pending, pending.length ≤ 1 ∧
    Passing query (read ++ records ++ pending) (ShowsRecords parser records) world

/-- The catch clauses find the lines of the records, and may add an error. -/
theorem reportException_records (exception : Exception) :
    Ensures (LeftBehind (κ := κ) query read (LeftRecords (ν := ν) parser) exception)
      (reportException connection exception)
      (fun reason world => reason = none ∧ AllButLast query parser read world)
      (fun _ => AllButLast query parser read) := by
  have silent (world : World κ (StoredStream ν))
      (left : LeftBehind query read (LeftRecords parser) exception world) :
      AllButLast query parser read world := by
    obtain ⟨records, pending, few, passing, either⟩ := left
    refine ⟨records, pending, few, passing, ?_⟩
    rcases either with ⟨lines, unended, whole⟩ | ⟨-, shows⟩
    · exact ⟨lines, .inl unended, whole.1⟩
    · exact shows
  have reported (message : String) (code : Int) (other : exception ≠ .clientDisconnected) :
      Ensures (LeftBehind (κ := κ) query read (LeftRecords parser) exception)
        (do callBack (writeStreamErrorLine connection message code)
            return (none : Option StreamEnd))
        (fun reason world => reason = none ∧ AllButLast query parser read world)
        (fun _ => AllButLast query parser read) := by
    intro world left
    obtain ⟨records, pending, few, passing, either⟩ := left
    rcases either with ⟨lines, unended, whole⟩ | ⟨same, -⟩
    · have wrote : Ensures (Passing (κ := κ) query (read ++ records ++ pending) (ShowsWhole lines))
          (callBack (writeStreamErrorLine connection message code)) _ _ :=
        callBack_passing (writeStreamErrorLine_records unended message code)
      apply Ensures.bind (wrote.raise ?_) (fun _ => Ensures.pure ?_) world ⟨passing, whole⟩
      · exact fun _ _ shows => ⟨records, pending, few, shows⟩
      · exact fun _ shows => ⟨rfl, records, pending, few, shows⟩
    · exact (other same).elim
  cases exception with
  | clientDisconnected => exact Ensures.pure fun world left => ⟨rfl, silent world left⟩
  | jvOperationCanceled message => exact Ensures.pure fun world left => ⟨rfl, silent world left⟩
  | stillRunning => exact Ensures.throw silent
  | jvStreamRead code message => exact reported _ code (by simp)
  | jvLinkFatal message => exact reported _ _ (by simp)
  | comTaskTimeout taskName => exact reported _ _ (by simp)
  | other message => exact reported _ _ (by simp)

/-- A query that comes to its end leaves the lines of all of its records. -/
def AnsweredFor (query : StoredQuery) (parser : RecordParser) (read : List Bytes)
    (reason : Option StreamEnd) (world : World κ (StoredStream ν)) : Prop :=
  AllButLast query parser read world ∧
    ∀ ended, reason = some ended → ended.isNormal = true →
      Delivered query read (ShowsStreamed parser) world

variable (connection jv parser query read) in
theorem provideStored_records (fuel : Nat) :
    Ensures (Passing query read (ShowsWhole [])) (provideStored connection jv parser query fuel)
      (AnsweredFor query parser read) (fun _ => AllButLast query parser read) := by
  have receives := stream_receives connection parser
  have asked : Ensures (Passing query read (ShowsWhole []))
      (queryStored jv (streamClient connection parser) query fuel) _ _ :=
    receives.queryStored (fun _ => streamMeta_fails_records) fuel
  refine Ensures.handle (Ensures.bind asked fun reason => Ensures.pure fun world ended => ?_)
    fun exception => (reportException_records exception).mono (fun _ left => left) ?_
      fun _ _ left => left
  · unfold ReceivedFor at ended
    split at ended
    · next normal =>
        obtain ⟨records, passing, lines, streamed, whole⟩ := ended
        refine ⟨⟨records, [], few_nil, ?_, lines, .inl (.inr streamed), whole.1⟩, ?_⟩
        · rw [List.append_nil, passing]
        · exact fun _ _ _ => ⟨records, passing, lines, streamed, whole⟩
    · next abnormal =>
        obtain ⟨passing, line, error, whole⟩ := ended
        refine ⟨⟨[], [], few_nil, ?_, [line], ?_, whole.1⟩, ?_⟩
        · rw [List.append_nil, List.append_nil, passing]
        · exact .inr ⟨[], line, .inl ⟨rfl, rfl⟩, error, rfl⟩
        · rintro _ ⟨⟩ normal
          exact (abnormal normal).elim
  · rintro _ world ⟨rfl, left⟩
    exact ⟨left, fun _ impossible => by cases impossible⟩

/-- A query that comes to its end has passed on all that was read. -/
theorem provideStored_delivers {fuel : Nat} {world : World κ Unit} {network : ν}
    {reason : StreamEnd} {after : World κ (StoredStream ν)}
    (done : provideStored connection jv parser query fuel (serving world network) =
      .ok (some reason) after) (normal : reason.isNormal = true) :
    Delivered query (query.selected world.files) (ShowsStreamed parser) after := by
  have ended := provideStored_records jv connection parser query (query.selected world.files) fuel
    (serving world network) ⟨rfl, rfl, rfl⟩
  change Ends _ _ (provideStored connection jv parser query fuel (serving world network)) at ended
  rw [done] at ended
  exact ended.2 reason rfl normal

/-- Over every run: the response has the lines of the records that were read, once and in
their order.  A query that comes to its end has passed on all of them; one that is left by
an exception may miss the last. -/
theorem records_delivered (jv : JVLink κ) (connection : Connection ν) (parser : RecordParser)
    (query : StoredQuery) (fuel : Nat) (world : World κ Unit) (network : ν) :
    let run := provideStored connection jv parser query fuel (serving world network)
    let lines := solidLines newline (finalState run).client.out.flatten
    ∃ records pending, pending.length ≤ 1 ∧
      query.selected (finalState run).files = query.selected world.files ++ records ++ pending ∧
      RespondsWith parser records lines ∧
      ∀ reason after, run = .ok (some reason) after → reason.isNormal = true →
        pending = [] ∧ StreamedWith parser records lines := by
  intro run lines
  have ended := provideStored_records jv connection parser query (query.selected world.files) fuel
    (serving world network) ⟨rfl, rfl, rfl⟩
  have partly (left : AllButLast query parser (query.selected world.files) (finalState run)) :
      ∃ records pending, pending.length ≤ 1 ∧
        query.selected (finalState run).files = query.selected world.files ++ records ++ pending ∧
        RespondsWith parser records lines := by
    obtain ⟨records, pending, few, read, shown, responds, shows⟩ := left
    obtain rfl : lines = shown := shows
    exact ⟨records, pending, few, read, responds⟩
  change Ends _ _ run at ended
  cases ran : run with
  | error exception after =>
      rw [ran] at ended partly
      obtain ⟨records, pending, few, read, responds⟩ := partly ended
      refine ⟨records, pending, few, read, responds, ?_⟩
      exact fun _ _ impossible => by cases impossible
  | ok reason after =>
      rw [ran] at ended partly
      by_cases normal : ∃ ended, reason = some ended ∧ ended.isNormal = true
      · obtain ⟨_, rfl, normal⟩ := normal
        obtain ⟨records, read, shown, streamed, whole⟩ := provideStored_delivers ran normal
        obtain rfl : lines = shown := by
          rw [← whole.1]
          change solidLines newline (finalState run).client.out.flatten = _
          rw [ran]
          rfl
        exact ⟨records, [], few_nil, by rw [List.append_nil]; exact read, .inl (.inr streamed),
          fun _ _ _ _ => ⟨rfl, streamed⟩⟩
      · obtain ⟨records, pending, few, read, responds⟩ := partly ended.1
        refine ⟨records, pending, few, read, responds, ?_⟩
        rintro ended' _ ⟨⟩ finished
        exact (normal ⟨ended', rfl, finished⟩).elim

end Response

end JVLinkServer.Worker
