import JVLinkServer.Core.ClientPhases
import JVLinkServer.Worker.StoredStream

namespace JVLinkServer.Worker

open Effects JVLinkServer.Core Lines

/-! # The lines of a stored stream

Apart from blank ones they are none, an error, or a metadata line, records, and
perhaps an error at the end.
-/

def IsLineOf (document : Json) (line : Bytes) : Prop := document.dump = .ok line

def MetaLine (line : Bytes) : Prop :=
  ∃ result : JVQueryResult, result.success = true ∧ IsLineOf (metaJson result) line

def RecordLine (line : Bytes) : Prop := ∃ type data, IsLineOf (recordJson type data) line

def ErrorLine (line : Bytes) : Prop := ∃ message code, IsLineOf (streamErrorJson message code) line

/-- Metadata and records. -/
def StreamedLines (lines : List Bytes) : Prop :=
  ∃ first records, MetaLine first ∧ (∀ line ∈ records, RecordLine line) ∧ lines = first :: records

/-- What there may be before an error. -/
def UnendedLines (lines : List Bytes) : Prop := lines = [] ∨ StreamedLines lines

def ResponseLines (lines : List Bytes) : Prop :=
  UnendedLines lines ∨ ∃ before line, UnendedLines before ∧ ErrorLine line ∧ lines = before ++ [line]

/-! ## Writing a line -/

section Lines

variable {ν : Type} {connection : Connection ν} {lines : List Bytes} {body : Bytes}
  {thrown : Exception → StoredStream ν → Prop}

/-- A client that reads what has been written. -/
def StoredStream.reader (stream : StoredStream ν) : Reader UInt8 :=
  ({} : Reader UInt8).feed newline stream.out.flatten

/-- The solid lines so far, the last of which may not have ended. -/
def Shows (lines : List Bytes) (stream : StoredStream ν) : Prop := stream.reader.solid = lines

/-- The last one has ended. -/
def ShowsWhole (lines : List Bytes) (stream : StoredStream ν) : Prop :=
  stream.reader.solid = lines ∧ stream.reader.rest = []

/-- A text of one line. -/
structure OneLine (body : Bytes) : Prop where
  plain : newline ∉ body
  solid : body ≠ []

theorem feed_newlines (reader : Reader UInt8) (count : Nat) :
    (reader.feed newline (List.replicate count [newline]).flatten).solid = reader.solid ∧
      (reader.rest = [] → (reader.feed newline (List.replicate count [newline]).flatten).rest = []) := by
  induction count generalizing reader with
  | zero => exact ⟨rfl, fun rest => rest⟩
  | succ count ih =>
      rw [List.replicate_succ, List.flatten_cons, feed_append]
      obtain ⟨solid, rest⟩ := ih (reader.feed newline [newline])
      exact ⟨solid.trans solid_separator, fun _ => rest (by simp)⟩

theorem beaten_reader (stream : StoredStream ν) (count : Nat) (ended : HeartbeatEnd) :
    (stream.beaten count ended).reader.solid = stream.reader.solid ∧
      (stream.reader.rest = [] → (stream.beaten count ended).reader.rest = []) := by
  unfold StoredStream.beaten
  split
  · exact ⟨rfl, fun rest => rest⟩
  · simp only [StoredStream.reader, List.flatten_append, feed_append]
    exact feed_newlines _ _

theorem heartbeat_shows :
    Ensures (Shows lines) (heartbeat connection) (fun _ => Shows lines) thrown :=
  fun _ shows => (beaten_reader _ _ _).1.trans shows

theorem heartbeat_showsWhole :
    Ensures (ShowsWhole lines) (heartbeat connection) (fun _ => ShowsWhole lines) thrown :=
  fun _ whole => ⟨(beaten_reader _ _ _).1.trans whole.1, (beaten_reader _ _ _).2 whole.2⟩

theorem askNetwork_keeps {α : Type} {kept : StoredStream ν → Prop} (question : ν → α × ν)
    (beside : ∀ stream network, kept stream → kept { stream with network }) :
    Ensures kept (askNetwork question) (fun _ => kept) thrown :=
  fun stream holds => beside stream _ holds

theorem noteGivenUp_keeps {kept : StoredStream ν → Prop}
    (beside : ∀ stream, kept stream → kept { stream with givenUp := true }) :
    Ensures kept (noteGivenUp : StreamAction ν Unit) (fun _ => kept) thrown :=
  Ensures.update beside

theorem sinkIsWritable_showsWhole :
    Ensures (ShowsWhole lines) (sinkIsWritable connection) (fun _ => ShowsWhole lines) thrown := by
  refine Ensures.bind heartbeat_showsWhole fun _ => ?_
  refine Ensures.bind (askNetwork_keeps _ fun _ _ holds => holds) fun writable => ?_
  refine Ensures.ite (fun _ => ?_) fun _ => Ensures.pure fun _ holds => holds
  exact Ensures.bind (noteGivenUp_keeps fun _ holds => holds) fun _ =>
    Ensures.pure fun _ holds => holds

/-- A write that succeeds is read. -/
theorem sinkWrite_shows {pre post : StoredStream ν → Prop} (data : Bytes)
    (beside : ∀ stream network, pre stream → pre { stream with network })
    (refused : ∀ stream, pre stream → pre { stream with ok := false })
    (accepted : ∀ stream, pre stream → post { stream with out := stream.out ++ [data] }) :
    Ensures pre (sinkWrite connection data)
      (fun written stream => if written then post stream else pre stream) thrown := by
  refine Ensures.bind Ensures.peek fun stream => ?_
  refine Ensures.ite (fun _ => Ensures.pure fun _ holds => holds) fun _ => ?_
  refine Ensures.bind (askNetwork_keeps _ beside) fun written => ?_
  cases written with
  | true =>
      have recorded : Ensures pre
          (update fun stream => { stream with out := stream.out ++ [data] } : StreamAction ν Unit)
          (fun _ => post) thrown := Ensures.update accepted
      exact Ensures.bind recorded fun _ => Ensures.pure fun _ holds => holds
  | false =>
      have broken : Ensures pre
          (update fun stream => { stream with ok := false } : StreamAction ν Unit)
          (fun _ => pre) thrown := Ensures.update refused
      exact Ensures.bind broken fun _ => Ensures.pure fun _ holds => holds

theorem reader_append (stream : StoredStream ν) (data : Bytes) :
    ({ stream with out := stream.out ++ [data] } : StoredStream ν).reader =
      stream.reader.feed newline data := by
  simp [StoredStream.reader]

/-- The body of a line, when the lock is held. -/
theorem sinkWrite_body (oneLine : OneLine body) :
    Ensures (ShowsWhole lines) (sinkWrite connection body)
      (fun written stream => if written then Shows (lines ++ [body]) stream
        else ShowsWhole lines stream) thrown := by
  refine sinkWrite_shows body (fun _ _ holds => holds) (fun _ holds => holds) fun stream whole => ?_
  rw [Shows, reader_append, feed_plain oneLine.plain]
  have solid := oneLine.solid
  simp only [Reader.solid, whole.2, List.nil_append, List.filter_append]
  rw [Reader.lines_of_blank whole.2, whole.1]
  simp [solid]

/-- The body of a line, written at the start of one. -/
theorem writeBody_shows (oneLine : OneLine body) :
    Ensures (ShowsWhole lines) (safeWrite connection body)
      (fun written stream => if written then Shows (lines ++ [body]) stream
        else ShowsWhole lines stream) thrown := by
  exact Ensures.bind heartbeat_showsWhole fun _ => sinkWrite_body oneLine

theorem writeNewline_shows :
    Ensures (Shows lines) (safeWrite connection [newline])
      (fun written stream => if written then ShowsWhole lines stream else Shows lines stream)
      thrown := by
  refine Ensures.bind heartbeat_shows fun _ => ?_
  refine sinkWrite_shows [newline] (fun _ _ holds => holds) (fun _ holds => holds)
    fun stream shows => ?_
  rw [ShowsWhole, reader_append]
  exact ⟨solid_separator.trans shows, by simp⟩

/-- A line that is written for good, or the broken attempt at it. -/
theorem writeLine_shows (oneLine : OneLine body) :
    Ensures (ShowsWhole lines) (writeLine connection body)
      (fun written stream => if written then ShowsWhole (lines ++ [body]) stream
        else Shows lines stream ∨ Shows (lines ++ [body]) stream) thrown := by
  refine Ensures.bind (writeBody_shows oneLine) fun written => ?_
  cases written with
  | false => exact Ensures.pure fun _ whole => .inl whole.1
  | true =>
      refine writeNewline_shows.mono (fun _ shows => shows) (fun ended stream shows => ?_)
        fun _ _ thrown => thrown
      cases ended with
      | true => exact shows
      | false => exact .inr shows

/-! ## The documents are lines -/

theorem oneLine_of_dump {document : Json} (oneLine : document.OneLine)
    (object : document.isObject = true) (dumped : document.dump = .ok body) : OneLine body := by
  unfold Json.dump at dumped
  split at dumped
  · cases dumped
    exact ⟨Json.newline_not_mem_render document oneLine, Json.render_ne_nil object⟩
  · cases dumped

theorem streamErrorJson_oneLine (message : String) (code : Int) :
    (streamErrorJson message code).OneLine := by
  refine Json.oneLine_record fun member inside => ?_
  cases List.mem_singleton.mp inside
  refine Json.oneLine_record fun member inside => ?_
  rcases List.mem_pair.mp inside with rfl | rfl <;> exact trivial

theorem metaJson_oneLine (result : JVQueryResult) : (metaJson result).OneLine := by
  unfold metaJson
  split
  · refine Json.oneLine_record fun member inside => ?_
    cases List.mem_singleton.mp inside
    refine Json.oneLine_record fun member inside => ?_
    simp only [List.mem_cons, List.not_mem_nil, or_false] at inside
    rcases inside with rfl | rfl | rfl <;> exact trivial
  · exact streamErrorJson_oneLine _ _

theorem metaJson_isObject (result : JVQueryResult) : (metaJson result).isObject = true := by
  unfold metaJson
  split <;> rfl

theorem recordJson_oneLine {type : Bytes} {data : Json} (oneLine : data.OneLine) :
    (recordJson type data).OneLine := by
  refine Json.oneLine_record fun member inside => ?_
  rcases List.mem_pair.mp inside with rfl | rfl
  · exact trivial
  · exact oneLine

/-! ## The callbacks -/

/-- What can be told of a response when the query is left by an exception. -/
def LeftLines (exception : Exception) (stream : StoredStream ν) : Prop :=
  (∃ lines, UnendedLines lines ∧ ShowsWhole lines stream) ∨
    exception = .clientDisconnected ∧ ∃ lines, ResponseLines lines ∧ Shows lines stream

theorem disconnect_leaves {before : List Bytes} {line : Bytes} (earlier : ResponseLines before)
    (later : ResponseLines (before ++ [line])) {post : Unit → StoredStream ν → Prop} :
    Ensures (fun stream => Shows before stream ∨ Shows (before ++ [line]) stream)
      (disconnect : StreamAction ν Unit) post LeftLines := by
  have noted : Ensures
      (fun stream : StoredStream ν => Shows before stream ∨ Shows (before ++ [line]) stream)
      noteClientDisconnected
      (fun _ stream => Shows before stream ∨ Shows (before ++ [line]) stream) LeftLines :=
    Ensures.update fun _ holds => holds
  refine Ensures.bind noted fun _ => Ensures.throw fun stream shows => .inr ⟨rfl, ?_⟩
  rcases shows with shows | shows
  · exact ⟨before, earlier, shows⟩
  · exact ⟨before ++ [line], later, shows⟩

variable (connection) in
/-- A callback that writes a line or leaves. -/
theorem writeLine_orDisconnect {before : List Bytes} (oneLine : OneLine body)
    (earlier : ResponseLines before) (later : ResponseLines (before ++ [body])) :
    Ensures (ShowsWhole before)
      (do if !(← writeLine connection body) then disconnect : StreamAction ν Unit)
      (fun _ => ShowsWhole (before ++ [body])) LeftLines := by
  refine Ensures.bind (writeLine_shows oneLine) fun written => ?_
  cases written with
  | true => exact Ensures.pure fun _ holds => holds
  | false => exact disconnect_leaves earlier later

variable (connection) in
theorem cancelRequested_shows :
    Ensures (ShowsWhole lines) (cancelRequested connection) (fun _ => ShowsWhole lines) thrown := by
  refine Ensures.bind heartbeat_showsWhole fun _ => ?_
  refine Ensures.bind Ensures.peek fun stream => ?_
  refine Ensures.ite (fun _ => ?_) fun _ => ?_
  · exact Ensures.bind (noteGivenUp_keeps fun _ holds => holds) fun _ =>
      Ensures.pure fun _ holds => holds
  refine Ensures.bind (askNetwork_keeps _ fun _ _ holds => holds) fun reset => ?_
  have seen : Ensures (ShowsWhole lines)
      (update fun stream => { stream with resetSeen := true } : StreamAction ν Unit)
      (fun _ => ShowsWhole lines) thrown := Ensures.update fun _ holds => holds
  refine Ensures.ite (fun _ => ?_) fun _ => Ensures.pure fun _ holds => holds
  exact Ensures.bind seen fun _ => Ensures.pure fun _ holds => holds

theorem unendedLines_response (unended : UnendedLines lines) : ResponseLines lines := .inl unended

theorem streamMeta_describes {result : JVQueryResult} (succeeded : result.success = true) :
    Ensures (ShowsWhole []) (streamMeta connection result)
      (fun _ stream => ∃ lines, StreamedLines lines ∧ ShowsWhole lines stream) LeftLines := by
  unfold streamMeta
  cases dumped : (metaJson result).dump with
  | error message => exact Ensures.throw fun stream whole => .inl ⟨[], .inl rfl, whole⟩
  | ok body =>
      have streamed : StreamedLines [body] :=
        ⟨body, [], ⟨result, succeeded, dumped⟩, by simp, rfl⟩
      have wrote := writeLine_orDisconnect connection
        (oneLine_of_dump (metaJson_oneLine result) (metaJson_isObject result) dumped)
        (unendedLines_response (.inl rfl)) (unendedLines_response (.inr streamed))
      simp only [succeeded]
      exact wrote.mono (fun _ whole => whole) (fun _ _ whole => ⟨[body], streamed, whole⟩)
        fun _ _ left => left

theorem streamMeta_fails {result : JVQueryResult} (failed : result.success = false) :
    Ensures (ShowsWhole []) (streamMeta connection result)
      (fun _ stream => ∃ line, ErrorLine line ∧ ShowsWhole [line] stream) LeftLines := by
  unfold streamMeta
  cases dumped : (metaJson result).dump with
  | error message => exact Ensures.throw fun stream whole => .inl ⟨[], .inl rfl, whole⟩
  | ok body =>
      have error : ErrorLine body := by
        refine ⟨result.errorMessage, result.errorCode, ?_⟩
        rw [metaJson, failed] at dumped
        exact dumped
      have noted : Ensures (ShowsWhole [body])
          (update fun stream => { stream with errorLine := true } : StreamAction ν Unit)
          (fun _ stream => ∃ line, ErrorLine line ∧ ShowsWhole [line] stream) LeftLines :=
        Ensures.update fun stream whole => ⟨body, error, whole⟩
      simp only [failed]
      refine Ensures.bind (writeLine_shows (oneLine_of_dump (metaJson_oneLine result)
        (metaJson_isObject result) dumped)) fun written => ?_
      cases written with
      | true => exact noted
      | false =>
          exact Ensures.bind (disconnect_leaves (unendedLines_response (.inl rfl))
            (.inr ⟨[], body, .inl rfl, error, rfl⟩)) fun _ => noted

theorem streamRecord_shows (parser : RecordParser) (record : Bytes) :
    Ensures (fun stream : StoredStream ν => ∃ lines, StreamedLines lines ∧ ShowsWhole lines stream)
      (streamRecord connection parser record)
      (fun _ stream => ∃ lines, StreamedLines lines ∧ ShowsWhole lines stream) LeftLines := by
  rintro stream ⟨lines, streamed, whole⟩
  have left : Ensures (ShowsWhole lines) (disconnect : StreamAction ν Unit)
      (fun _ => ShowsWhole lines) LeftLines := by
    have noted : Ensures (ShowsWhole lines) (noteClientDisconnected : StreamAction ν Unit)
        (fun _ => ShowsWhole lines) LeftLines := Ensures.update fun _ holds => holds
    refine Ensures.bind noted fun _ => Ensures.throw fun _ whole => ?_
    exact .inl ⟨lines, .inr streamed, whole⟩
  -- What follows the look at the sink.
  have before {rest : StreamAction ν Unit}
      (parsed : Ensures (ShowsWhole lines) rest
        (fun _ stream => ∃ lines, StreamedLines lines ∧ ShowsWhole lines stream) LeftLines) :
      Ensures (ShowsWhole lines)
        (sinkIsWritable connection >>= fun writable =>
          if !writable then disconnect >>= fun (_ : Unit) => rest else rest)
        (fun _ stream => ∃ lines, StreamedLines lines ∧ ShowsWhole lines stream) LeftLines := by
    refine Ensures.bind sinkIsWritable_showsWhole fun writable => ?_
    refine Ensures.ite (fun _ => ?_) fun _ => parsed
    exact Ensures.bind left fun _ => parsed
  refine before ?_ stream whole
  split
  · exact Ensures.pure fun _ whole => ⟨lines, streamed, whole⟩
  · exact Ensures.pure fun _ whole => ⟨lines, streamed, whole⟩
  next type data parsed =>
    split
    · exact Ensures.pure fun _ whole => ⟨lines, streamed, whole⟩
    next body dumped =>
      obtain ⟨first, records, described, recorded, rfl⟩ := streamed
      have longer : StreamedLines (first :: records ++ [body]) := by
        refine ⟨first, records ++ [body], described, fun line inside => ?_, rfl⟩
        rcases List.mem_append.mp inside with earlier | last
        · exact recorded line earlier
        · cases List.mem_singleton.mp last
          exact ⟨type, data, dumped⟩
      have wrote := writeLine_orDisconnect connection
        (oneLine_of_dump (recordJson_oneLine (parser.oneLine _ _ _ parsed)) rfl dumped)
        (unendedLines_response (.inr ⟨first, records, described, recorded, rfl⟩))
        (unendedLines_response (.inr longer))
      exact wrote.mono (fun _ whole => whole) (fun _ _ whole => ⟨_, longer, whole⟩)
        fun _ _ left => left

variable (connection) in
theorem stream_phases (parser : RecordParser) :
    ClientPhases (streamClient connection parser) (ShowsWhole [])
      (fun stream => ∃ lines, StreamedLines lines ∧ ShowsWhole lines stream) LeftLines where
  pollsOpening := cancelRequested_shows connection
  describes _ := streamMeta_describes
  records := streamRecord_shows parser
  pollsReading := fun stream ⟨lines, streamed, whole⟩ =>
    (cancelRequested_shows connection stream whole).mono
      (fun _ _ whole => ⟨lines, streamed, whole⟩) fun _ _ left => left
  leaves exception stream _ either := by
    rcases either with whole | ⟨lines, streamed, whole⟩
    · exact .inl ⟨[], .inl rfl, whole⟩
    · exact .inl ⟨lines, .inr streamed, whole⟩

/-! ## The whole response -/

/-- At the end, whatever the query came to. -/
def Responds (stream : StoredStream ν) : Prop := ∃ lines, ResponseLines lines ∧ Shows lines stream

theorem sinkWrite_newline_responds :
    Ensures (Responds (ν := ν)) (sinkWrite connection [newline]) (fun _ => Responds) thrown := by
  have accepted (stream : StoredStream ν) (responds : Responds stream) :
      Responds { stream with out := stream.out ++ [[newline]] } := by
    obtain ⟨lines, response, shows⟩ := responds
    refine ⟨lines, response, ?_⟩
    rw [Shows, reader_append]
    exact solid_separator.trans shows
  refine (sinkWrite_shows [newline] (fun _ _ holds => holds) (fun _ holds => holds)
    accepted).mono (fun _ responds => responds) (fun written _ responds => ?_) fun _ _ thrown => thrown
  cases written <;> exact responds

theorem writeStreamErrorLine_responds (message : String) (code : Int) (unended : UnendedLines lines) :
    Ensures (ShowsWhole lines) (writeStreamErrorLine connection message code)
      (fun _ => Responds) (fun _ => Responds) := by
  have whole_responds (stream : StoredStream ν) (whole : ShowsWhole lines stream) :
      Responds stream := ⟨lines, .inl unended, whole.1⟩
  unfold writeStreamErrorLine
  refine Ensures.bind sinkIsWritable_showsWhole fun writable => ?_
  refine Ensures.ite (fun _ => Ensures.pure whole_responds) fun _ => ?_
  cases dumped : (streamErrorJson message code).dump with
  | error message => exact Ensures.throw whole_responds
  | ok line =>
      have oneLine := oneLine_of_dump (streamErrorJson_oneLine message code) rfl dumped
      refine Ensures.bind sinkIsWritable_showsWhole fun writable => ?_
      refine Ensures.ite (fun _ => Ensures.pure whole_responds) fun _ => ?_
      have ended : Ensures (Responds (ν := ν))
          (do let _ ← sinkWrite connection [newline] : StreamAction ν Unit) (fun _ => Responds)
          (fun _ => Responds) :=
        Ensures.bind sinkWrite_newline_responds fun _ => Ensures.pure fun _ holds => holds
      have noted : Ensures (Shows (lines ++ [line]))
          (update fun stream => { stream with errorLine := true } : StreamAction ν Unit)
          (fun _ => Responds) (fun _ => Responds) :=
        Ensures.update fun _ shows =>
          ⟨_, .inr ⟨lines, line, unended, ⟨message, code, dumped⟩, rfl⟩, shows⟩
      refine Ensures.bind (sinkWrite_body oneLine) fun written => ?_
      cases written with
      | true => exact Ensures.bind noted fun _ => ended
      | false =>
          exact ended.mono whole_responds (fun _ _ holds => holds) fun _ _ holds => holds

/-- The catch clauses find an unended response, or write nothing. -/
theorem reportException_responds {κ : Type} (exception : Exception) :
    Ensures (AtClient (κ := κ) (LeftLines exception)) (reportException connection exception)
      (fun _ => AtClient Responds) (fun _ => AtClient (Responds (ν := ν))) := by
  have reported (message : String) (code : Int) (other : exception ≠ .clientDisconnected) :
      Ensures (AtClient (κ := κ) (LeftLines exception))
        (do callBack (writeStreamErrorLine connection message code); return (none : Option StreamEnd))
        (fun _ => AtClient Responds) (fun _ => AtClient (Responds (ν := ν))) := by
    have wrote : Ensures (LeftLines exception) (writeStreamErrorLine connection message code)
        (fun _ => Responds) (fun _ => Responds (ν := ν)) := by
      rintro stream (⟨lines, unended, whole⟩ | ⟨same, -⟩)
      · exact writeStreamErrorLine_responds message code unended stream whole
      · exact (other same).elim
    exact Ensures.bind (callBack_atClient wrote) fun _ => Ensures.pure fun _ holds => holds
  have silent (stream : StoredStream ν) (left : LeftLines exception stream) : Responds stream := by
    rcases left with ⟨lines, unended, whole⟩ | ⟨-, responds⟩
    · exact ⟨lines, .inl unended, whole.1⟩
    · exact responds
  cases exception with
  | clientDisconnected => exact Ensures.pure fun world left => silent world.client left
  | jvOperationCanceled message => exact Ensures.pure fun world left => silent world.client left
  | stillRunning => exact Ensures.throw fun world left => silent world.client left
  | jvStreamRead code message => exact reported _ code (by simp)
  | jvLinkFatal message => exact reported _ _ (by simp)
  | comTaskTimeout taskName => exact reported _ _ (by simp)
  | other message => exact reported _ _ (by simp)

variable {κ : Type} {jv : JVLink κ} {query : StoredQuery}

variable (connection jv query) in
theorem provideStored_responds (parser : RecordParser) (fuel : Nat) :
    Ensures (AtClient (ShowsWhole [])) (provideStored connection jv parser query fuel)
      (fun _ => AtClient Responds) (fun _ => AtClient (Responds (ν := ν))) := by
  have phases := stream_phases connection parser
  refine Ensures.handle (Ensures.bind (phases.queryStored (fun _ => streamMeta_fails) fuel)
    fun reason => Ensures.pure fun world ended => ?_) reportException_responds
  unfold EndedFor at ended
  split at ended
  · obtain ⟨lines, streamed, whole⟩ := ended
    exact ⟨lines, .inl (.inr streamed), whole.1⟩
  · obtain ⟨line, error, whole⟩ := ended
    exact ⟨[line], .inr ⟨[], line, .inl rfl, error, rfl⟩, whole.1⟩

end Lines

end JVLinkServer.Worker
