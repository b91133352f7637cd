import JVLinkServer.Worker.StoredProtocol

namespace JVLinkServer.Worker

open Effects JVLinkServer.Core

/-! # Clean ends

A stored stream that is finished without an error line is complete, unless a session reset
has been seen or the client has been given up.
-/

/-! ## What the sink leaves alone -/

section Sink

variable {ν : Type} {connection : Connection ν} {kept : StoredStream ν → Prop}
  {thrown : Exception → StoredStream ν → Prop}

/-- A predicate that no write, no failure of the sink and no heartbeat ends. -/
structure Lasting (kept : StoredStream ν → Prop) : Prop where
  network stream network : kept stream → kept { stream with network }
  written stream out : kept stream → kept { stream with out }
  broken stream : kept stream → kept { stream with ok := false }
  beaten stream count ended : kept stream → kept (stream.beaten count ended)

/-- The sink is not ok any more unless `answer`. -/
def OrBroken (kept : StoredStream ν → Prop) (answer : Bool) (stream : StoredStream ν) : Prop :=
  kept stream ∧ (answer = false → stream.ok = false)

/-- The client is given up unless `answer`. -/
def OrGivenUp (kept : StoredStream ν → Prop) (answer : Bool) (stream : StoredStream ν) : Prop :=
  if answer then kept stream else stream.givenUp = true

theorem orBroken_true {stream : StoredStream ν} (holds : kept stream) :
    OrBroken kept true stream :=
  ⟨holds, by simp⟩

/-- Whatever the answer was, the rest may do without it. -/
theorem orBroken_goesOn {α : Type} {answer : Bool} {action : StreamAction ν α}
    {post : α → StoredStream ν → Prop} (rest : Ensures kept action post thrown) :
    Ensures (OrBroken kept answer) action post thrown :=
  fun stream holds => rest stream holds.1

theorem noteGivenUp_givesUp :
    Ensures kept (noteGivenUp : StreamAction ν Unit) (fun _ stream => stream.givenUp = true)
      thrown :=
  Ensures.update fun _ _ => rfl

theorem beaten_broken (stream : StoredStream ν) (count : Nat) (ended : HeartbeatEnd)
    (broken : stream.ok = false) : (stream.beaten count ended).ok = false := by
  unfold StoredStream.beaten
  split
  · exact broken
  · simp [broken]

namespace Lasting

variable (lasting : Lasting kept)
include lasting

theorem asks {α : Type} (question : ν → α × ν) :
    Ensures kept (askNetwork question) (fun _ => kept) thrown :=
  askNetwork_keeps question lasting.network

theorem heartbeat : Ensures kept (heartbeat connection) (fun _ => kept) thrown := by
  refine Ensures.bind (lasting.asks _) fun beats => ?_
  exact Ensures.update fun stream => lasting.beaten stream beats.1 beats.2

theorem sinkIsWritable : Ensures kept (sinkIsWritable connection) (OrGivenUp kept) thrown := by
  refine Ensures.bind lasting.heartbeat fun _ => ?_
  refine Ensures.bind (lasting.asks _) fun writable => ?_
  cases writable with
  | true => exact Ensures.pure fun _ holds => holds
  | false => exact Ensures.bind noteGivenUp_givesUp fun _ => Ensures.pure fun _ holds => holds

theorem sinkWrite (data : Bytes) :
    Ensures kept (sinkWrite connection data) (OrBroken kept) thrown := by
  refine Ensures.bind Ensures.read fun before => ?_
  refine Ensures.ite (fun broken => Ensures.pure ?_) fun _ => ?_
  · rintro stream ⟨rfl, holds⟩
    exact ⟨holds, fun _ => by simpa using broken⟩
  have asked : Ensures (fun stream => before = stream ∧ kept stream)
      (askNetwork (connection.write data)) (fun _ => kept) thrown :=
    (lasting.asks _).mono (fun _ holds => holds.2) (fun _ _ holds => holds) fun _ _ holds => holds
  refine Ensures.bind asked fun written => ?_
  cases written with
  | true =>
      have recorded : Ensures kept
          (update fun stream => { stream with out := stream.out ++ [data] } : StreamAction ν Unit)
          (fun _ => kept) thrown := Ensures.update fun stream => lasting.written stream _
      exact Ensures.bind recorded fun _ => Ensures.pure fun _ => orBroken_true
  | false =>
      have broken : Ensures kept
          (update fun stream => { stream with ok := false } : StreamAction ν Unit)
          (fun _ => OrBroken kept false) thrown :=
        Ensures.update fun stream holds => ⟨lasting.broken stream holds, fun _ => rfl⟩
      exact Ensures.bind broken fun _ => Ensures.pure fun _ holds => holds

theorem safeWrite (data : Bytes) :
    Ensures kept (safeWrite connection data) (OrBroken kept) thrown :=
  Ensures.bind lasting.heartbeat fun _ => lasting.sinkWrite data

theorem writeLine (body : Bytes) :
    Ensures kept (writeLine connection body) (OrBroken kept) thrown := by
  refine Ensures.bind (lasting.safeWrite body) fun written => ?_
  cases written with
  | true => exact orBroken_goesOn (lasting.safeWrite _)
  | false => exact Ensures.pure fun _ holds => holds

end Lasting

end Sink

/-! ## How the query goes -/

section Stream

variable {ν : Type} {connection : Connection ν} {α : Type}

/-- No reset has been seen, and the client has not been given up. -/
def Unspoiled (stream : StoredStream ν) : Prop :=
  stream.resetSeen = false ∧ stream.givenUp = false

def Undisturbed (stream : StoredStream ν) : Prop := Unspoiled stream ∧ stream.errorLine = false

/-- There is a reason to cancel. -/
def Disturbed (stream : StoredStream ν) : Prop :=
  stream.resetSeen = true ∨ stream.givenUp = true

/-- What a query that returns has come to, or reported. -/
def Explained (reason : StreamEnd) (stream : StoredStream ν) : Prop :=
  stream.errorLine = true ∨ reason.isNormal = true ∧ Unspoiled stream

/-- The callbacks have given the client up. -/
def LostSink (stream : StoredStream ν) : Prop := stream.ok = false ∨ stream.givenUp = true

/-- Why a query was left. -/
def LeftFor (exception : Exception) (stream : StoredStream ν) : Prop :=
  match exception with
  | .clientDisconnected => LostSink stream
  | .jvOperationCanceled _ => Disturbed stream
  | _ => True

theorem disturbed_not_unspoiled {stream : StoredStream ν} (disturbed : Disturbed stream) :
    ¬ Unspoiled stream := by
  rintro ⟨unseen, kept⟩
  simp [Disturbed, unseen, kept] at disturbed

theorem undisturbed_lasting : Lasting (Undisturbed (ν := ν)) where
  network _ _ holds := holds
  written _ _ holds := holds
  broken _ holds := holds
  beaten stream count ended holds := by
    unfold StoredStream.beaten
    split <;> exact holds

theorem disturbed_lasting : Lasting (Disturbed (ν := ν)) where
  network _ _ holds := holds
  written _ _ holds := holds
  broken _ holds := holds
  beaten stream count ended holds := by
    unfold StoredStream.beaten
    split <;> exact holds

/-- The client is only given up without a sink for it. -/
theorem disconnect_left {post : α → StoredStream ν → Prop} :
    Ensures LostSink (disconnect : StreamAction ν α) post LeftFor := by
  have noted : Ensures LostSink (noteClientDisconnected : StreamAction ν Unit)
      (fun _ => LostSink) LeftFor := Ensures.update fun _ lost => lost
  exact Ensures.bind noted fun _ => Ensures.throw fun _ lost => lost

theorem disconnect_broken {kept : StoredStream ν → Prop} {post : α → StoredStream ν → Prop} :
    Ensures (OrBroken kept false) (disconnect : StreamAction ν α) post LeftFor :=
  fun stream broken => disconnect_left stream (.inl (broken.2 rfl))

/-- A line without which the callback gives up. -/
theorem writeLine_orLeft {kept : StoredStream ν → Prop} (lasting : Lasting kept) (body : Bytes) :
    Ensures kept (do if !(← writeLine connection body) then disconnect) (fun _ => kept)
      LeftFor := by
  refine Ensures.bind (lasting.writeLine body) fun written => ?_
  cases written with
  | true => exact Ensures.pure fun _ holds => holds.1
  | false => exact disconnect_broken

theorem streamMeta_undisturbed {result : JVQueryResult} (succeeded : result.success = true) :
    Ensures Undisturbed (streamMeta connection result) (fun _ => Undisturbed) LeftFor := by
  unfold streamMeta
  split
  · exact Ensures.throw fun _ _ => trivial
  next body _ =>
    simp only [succeeded]
    exact writeLine_orLeft undisturbed_lasting body

/-- A failure is told. -/
theorem streamMeta_explained {kept : StoredStream ν → Prop} (lasting : Lasting kept)
    {result : JVQueryResult} (failed : result.success = false) (reason : StreamEnd) :
    Ensures kept (streamMeta connection result) (fun _ => Explained reason) LeftFor := by
  have noted : Ensures kept
      (update fun stream => { stream with errorLine := true } : StreamAction ν Unit)
      (fun _ => Explained reason) LeftFor := Ensures.update fun _ _ => .inl rfl
  unfold streamMeta
  split
  · exact Ensures.throw fun _ _ => trivial
  next body _ =>
    simp only [failed]
    refine Ensures.bind (lasting.writeLine body) fun written => ?_
    cases written with
    | true => exact orBroken_goesOn noted
    | false => exact Ensures.bind disconnect_broken fun _ => noted

theorem streamRecord_undisturbed (parser : RecordParser) (record : Bytes) :
    Ensures Undisturbed (streamRecord connection parser record) (fun _ => Undisturbed) LeftFor := by
  -- What follows the look at the sink.
  have before {rest : StreamAction ν Unit}
      (parsed : Ensures Undisturbed rest (fun _ => Undisturbed) LeftFor) :
      Ensures Undisturbed
        (sinkIsWritable connection >>= fun writable =>
          if !writable then disconnect >>= fun (_ : Unit) => rest else rest)
        (fun _ => Undisturbed) LeftFor := by
    refine Ensures.bind undisturbed_lasting.sinkIsWritable fun writable => ?_
    cases writable with
    | true => exact parsed
    | false =>
        have left : Ensures (OrGivenUp Undisturbed false) (disconnect : StreamAction ν Unit)
            (fun _ => Undisturbed) LeftFor := fun stream givenUp =>
          disconnect_left stream (.inr givenUp)
        exact Ensures.bind left fun _ => parsed
  refine before ?_
  split
  · exact Ensures.pure fun _ holds => holds
  · exact Ensures.pure fun _ holds => holds
  · split
    · exact Ensures.pure fun _ holds => holds
    next body _ => exact writeLine_orLeft undisturbed_lasting body

variable (connection) in
/-- The answer of a poll, and what it knows. -/
theorem cancelRequested_answers {kept : StoredStream ν → Prop} (lasting : Lasting kept) :
    Ensures kept (cancelRequested connection)
      (fun answer stream => if answer then Disturbed stream else kept stream) LeftFor := by
  refine Ensures.bind lasting.heartbeat fun _ => ?_
  refine Ensures.bind Ensures.peek fun stream => ?_
  refine Ensures.ite (fun _ => ?_) fun _ => ?_
  · exact Ensures.bind noteGivenUp_givesUp fun _ => Ensures.pure fun _ givenUp => .inr givenUp
  · refine Ensures.bind (lasting.asks _) fun reset => ?_
    cases reset with
    | false => exact Ensures.pure fun _ holds => holds
    | true =>
        have seen : Ensures kept
            (update fun stream => { stream with resetSeen := true } : StreamAction ν Unit)
            (fun _ => Disturbed) LeftFor := Ensures.update fun _ _ => .inl rfl
        exact Ensures.bind seen fun _ => Ensures.pure fun _ holds => holds

end Stream

section Query

variable {κ ν α : Type} {jv : JVLink κ} {connection : Connection ν} {parser : RecordParser}
  {query : StoredQuery}

theorem leftFor_of_isFault {exception : Exception} (fault : exception.isFault = true)
    (stream : StoredStream ν) : LeftFor exception stream := by
  cases exception <;> first | exact trivial | cases fault

/-- A COM call in the middle of the stream. -/
theorem comCall_left {kept : StoredStream ν → Prop} {callable : Action κ (StoredStream ν) α}
    (runs : Ensures (AtClient kept) callable (fun _ => AtClient kept) fun _ _ => False)
    (operationName : String) (timeout : TimeoutConfig → Nat) :
    Ensures (AtClient kept) (invokeComCall jv operationName timeout callable)
      (fun _ => AtClient kept) (fun exception => AtClient (LeftFor exception)) :=
  (comCall_atClient runs operationName timeout).raise fun _ _ failed =>
    leftFor_of_isFault failed.1 _

variable (jv connection parser query) in
theorem stream_rules : StreamRules jv (streamClient connection parser) query
    (fun _ => AtClient Undisturbed) (AtClient Disturbed) (AtClient Disturbed)
    (fun reason => AtClient (Explained reason)) (fun exception => AtClient (LeftFor exception)) where
  opens := comCall_left ((atClient_beside _).anyEnv.performJVOpen _ _ _) _ _
  status := comCall_left (atClient_beside _).anyEnv.performJVStatus _ _
  abandons := Ensures.attempt ((comCall_atClient ((atClient_beside _).anyEnv.reads _) _ _).raise
    fun _ _ failed => failed.2)
  gets filename := comCall_left
    (Ensures.bind Ensures.peek fun _ => jvGetsAttempts_atClient _ filename) _ _
  skips _ := comCall_left ((atClient_beside _).anyEnv.reads _) _ _
  polls _ := (shouldCancel_atClient
      (cancelRequested_answers connection undisturbed_lasting)).mono
    (fun _ holds => holds) (fun answer _ holds => by cases answer <;> exact holds)
    fun _ _ left => left
  pollsAgain := (shouldCancel_atClient
      (cancelRequested_answers connection disturbed_lasting)).mono
    (fun _ holds => holds) (fun answer _ holds => by cases answer <;> exact holds)
    fun _ _ left => left
  describes _ succeeded := metaCallback_atClient (streamMeta_undisturbed succeeded)
  fails result reason failed := by
    rintro world (holds | holds)
    · exact metaCallback_atClient (streamMeta_explained undisturbed_lasting failed reason) world holds
    · exact metaCallback_atClient (streamMeta_explained disturbed_lasting failed reason) world holds
  records _ record := recordCallback_atClient (streamRecord_undisturbed parser record)
  cancels _ _ canceled := canceled
  breaks _ _ _ _ _ := trivial
  goesOn _ _ _ := trivial
  completes reason _ world normal holds := by
    refine .inr ⟨?_, holds.1⟩
    rcases normal with rfl | rfl | rfl <;> rfl

theorem queryStored_explained (fuel : Nat) :
    Ensures (AtClient Undisturbed) (queryStored jv (streamClient connection parser) query fuel)
      (fun reason => AtClient (Explained reason))
      (fun exception => AtClient (LeftFor exception)) := by
  have rules := stream_rules jv connection parser query
  refine Ensures.bind Ensures.peek fun world => ?_
  refine Ensures.ite (fun _ => ?_) fun _ => ?_
  · have refused := (rules.fails { errorMessage := "JVLinkWrapper not initialized" }
      .notInitialized rfl).mono (fun _ => .inl) (fun _ _ holds => holds) fun _ _ left => left
    exact Ensures.bind refused fun _ => Ensures.pure fun _ holds => holds
  · refine Ensures.afterwards (rules.openAndStream fuel)
      (fun reason world ended => ?_) fun exception world left => ?_
    · exact closeSession_atClient ended
    · split
      · exact closeSession_atClient left
      · exact left

/-! ## How the response ends -/

/-- The client has lost the sink, or has been told. -/
def LostOrTold (stream : StoredStream ν) : Prop := LostSink stream ∨ stream.errorLine = true

theorem lostOrTold_lasting : Lasting (LostOrTold (ν := ν)) where
  network _ _ holds := holds
  written _ _ holds := holds
  broken _ _ := .inl (.inl rfl)
  beaten stream count ended holds := by
    rcases holds with (broken | givenUp) | told
    · exact .inl (.inl (beaten_broken stream count ended broken))
    all_goals unfold StoredStream.beaten
    · split <;> exact .inl (.inr givenUp)
    · split <;> exact .inr told

theorem anything_lasting : Lasting fun _ : StoredStream ν => True where
  network _ _ _ := trivial
  written _ _ _ := trivial
  broken _ _ := trivial
  beaten _ _ _ _ := trivial

theorem writeStreamErrorLine_tells (message : String) (code : Int) :
    Ensures (fun _ => True) (writeStreamErrorLine connection message code)
      (fun _ => LostOrTold) (fun _ _ => True) := by
  have givesUp : Ensures (OrGivenUp (fun _ : StoredStream ν => True) false) (pure ())
      (fun _ => LostOrTold) (fun (_ : Exception) _ => True) :=
    Ensures.pure fun _ givenUp => .inl (.inr givenUp)
  have ended : Ensures (LostOrTold (ν := ν))
      (do let _ ← sinkWrite connection [newline] : StreamAction ν Unit) (fun _ => LostOrTold)
      (fun _ _ => True) :=
    Ensures.bind (lostOrTold_lasting.sinkWrite _) fun _ => Ensures.pure fun _ holds => holds.1
  have noted : Ensures (fun _ => True)
      (update fun stream => { stream with errorLine := true } : StreamAction ν Unit)
      (fun _ => LostOrTold) (fun _ _ => True) := Ensures.update fun _ _ => .inr rfl
  unfold writeStreamErrorLine
  refine Ensures.bind anything_lasting.sinkIsWritable fun writable => ?_
  cases writable with
  | false => exact givesUp
  | true =>
      cases (streamErrorJson message code).dump with
      | error message => exact Ensures.throw fun _ _ => trivial
      | ok line =>
          refine Ensures.bind anything_lasting.sinkIsWritable fun writable => ?_
          cases writable with
          | false => exact givesUp
          | true =>
              refine Ensures.bind (anything_lasting.sinkWrite line) fun written => ?_
              cases written with
              | true => exact Ensures.bind (orBroken_goesOn noted) fun _ => ended
              | false =>
                  exact ended.mono (fun _ broken => .inl (.inl (broken.2 rfl)))
                    (fun _ _ holds => holds) fun _ _ holds => holds

/-- What the end of the query means when no error is told. -/
def SettledFor (reason : Option StreamEnd) (stream : StoredStream ν) : Prop :=
  stream.errorLine = true ∨ ((∃ ended, reason = some ended ∧ ended.isNormal = true) ↔
    Unspoiled stream)

def EndsFor (reason : Option StreamEnd) (stream : StoredStream ν) : Prop :=
  stream.ok = false ∨ SettledFor reason stream

theorem settledFor_none {stream : StoredStream ν} (disturbed : Disturbed stream) :
    SettledFor none stream := by
  refine .inr ⟨?_, fun unspoiled => ?_⟩
  · rintro ⟨_, absent, -⟩
    cases absent
  · exact (disturbed_not_unspoiled disturbed unspoiled).elim

theorem endsFor_lost {stream : StoredStream ν} (lost : LostSink stream) : EndsFor none stream := by
  rcases lost with broken | givenUp
  · exact .inl broken
  · exact .inr (settledFor_none (.inr givenUp))

theorem settledFor_lasting (reason : Option StreamEnd) :
    Lasting (SettledFor (ν := ν) reason) where
  network _ _ holds := holds
  written _ _ holds := holds
  broken _ holds := holds
  beaten stream count ended holds := by
    unfold StoredStream.beaten
    split <;> exact holds

theorem endsFor_lasting (reason : Option StreamEnd) : Lasting (EndsFor (ν := ν) reason) where
  network _ _ holds := holds
  written _ _ holds := holds
  broken _ _ := .inl rfl
  beaten stream count ended :=
    Or.imp (beaten_broken stream count ended)
      ((settledFor_lasting reason).beaten stream count ended)

theorem reportException_ends (exception : Exception) :
    Ensures (AtClient (κ := κ) (LeftFor exception)) (reportException connection exception)
      (fun reason => AtClient (EndsFor reason)) (fun _ _ => True) := by
  have told (message : String) (code : Int) :
      Ensures (AtClient (κ := κ) fun _ : StoredStream ν => True)
        (do callBack (writeStreamErrorLine connection message code); return (none : Option StreamEnd))
        (fun reason => AtClient (EndsFor reason)) (fun _ _ => True) := by
    refine Ensures.bind ((callBack_atClient (writeStreamErrorLine_tells message code)).raise
      fun _ _ _ => trivial) fun _ => Ensures.pure fun world lostOrTold => ?_
    rcases lostOrTold with lost | told
    · exact endsFor_lost lost
    · exact .inr (.inl told)
  cases exception with
  | clientDisconnected => exact Ensures.pure fun _ lost => endsFor_lost lost
  | jvOperationCanceled message =>
      exact Ensures.pure fun _ disturbed => .inr (settledFor_none disturbed)
  | stillRunning => exact Ensures.throw fun _ _ => trivial
  | jvStreamRead code message => exact told _ _
  | jvLinkFatal message => exact told _ _
  | comTaskTimeout taskName => exact told _ _
  | other message => exact told _ _

variable (jv connection parser query) in
theorem provideStored_ends (fuel : Nat) :
    Ensures (AtClient Undisturbed) (provideStored connection jv parser query fuel)
      (fun reason => AtClient (EndsFor reason)) (fun _ _ => True) := by
  refine Ensures.handle (Ensures.bind (queryStored_explained fuel) fun reason =>
    Ensures.pure fun world explained => ?_) reportException_ends
  rcases explained with told | ⟨normal, unspoiled⟩
  · exact .inr (.inl told)
  · exact .inr (.inr ⟨fun _ => unspoiled, fun _ => ⟨reason, rfl, normal⟩⟩)

def FinishedFor (reason : Option StreamEnd) (stream : StoredStream ν) : Prop :=
  stream.finished = true → SettledFor reason stream

/-- The end is only marked in a sink that is ok. -/
theorem sinkDone_finishes (reason : Option StreamEnd) :
    Ensures (EndsFor reason) (sinkDone connection) (fun _ => FinishedFor reason)
      fun _ _ => True := by
  have recorded : Ensures (EndsFor reason)
      (update fun stream => { stream with finished := stream.ok } : StreamAction ν Unit)
      (fun _ => FinishedFor reason) fun _ _ => True := by
    refine Ensures.update fun stream ends finished => ends.resolve_left fun broken => ?_
    rw [broken] at finished
    cases finished
  have settled := settledFor_lasting (ν := ν) reason
  refine Ensures.bind Ensures.read fun before => ?_
  refine Ensures.ite (fun ok => ?_) fun _ => ?_
  · have asked : Ensures (fun stream => before = stream ∧ EndsFor reason stream)
        (askNetwork (connection.write (utf8 "0\r\n"))) (fun _ => SettledFor reason)
        fun _ _ => True := by
      refine (settled.asks _).mono ?_ (fun _ _ holds => holds) fun _ _ holds => holds
      rintro stream ⟨rfl, ends⟩
      exact ends.resolve_left (by simp [ok])
    refine Ensures.bind asked fun marked => ?_
    refine Ensures.bind (settled.asks _) fun ended => ?_
    have checked : Ensures (SettledFor reason)
        (update fun stream => { stream with ok := marked && ended } : StreamAction ν Unit)
        (fun _ => EndsFor reason) fun _ _ => True := Ensures.update fun _ holds => .inr holds
    exact Ensures.bind checked fun _ => recorded
  · exact recorded.mono (fun _ holds => holds.2) (fun _ _ holds => holds) fun _ _ holds => holds

variable (jv connection parser query) in
theorem finishStored_ends (fuel : Nat) :
    Ensures (AtClient Undisturbed) (finishStored connection jv parser query fuel)
      (fun reason => AtClient (FinishedFor reason)) (fun _ _ => True) := by
  refine Ensures.bind (provideStored_ends jv connection parser query fuel) fun reason => ?_
  have joined : Ensures (EndsFor reason) (do heartbeat connection; sinkDone connection)
      (fun _ => FinishedFor reason) (fun _ _ => True) :=
    Ensures.bind (endsFor_lasting reason).heartbeat fun _ => sinkDone_finishes reason
  exact Ensures.bind ((callBack_atClient joined).raise fun _ _ _ => trivial) fun _ =>
    Ensures.pure fun _ finished => finished

/-- A stream that is finished without a word of an error is complete if, and only if, no poll
has seen a session reset and the client has not been given up. -/
theorem clean_end_complete_iff (jv : JVLink κ) (connection : Connection ν)
    (parser : RecordParser) (query : StoredQuery) (fuel : Nat) (world : World κ Unit) (network : ν)
    {reason : Option StreamEnd} {after : World κ (StoredStream ν)}
    (done : finishStored connection jv parser query fuel (serving world network) =
      .ok reason after)
    (finished : after.client.finished = true) (untold : after.client.errorLine = false) :
    (∃ ended, reason = some ended ∧ ended.isNormal = true) ↔
      after.client.resetSeen = false ∧ after.client.givenUp = false := by
  have ends := finishStored_ends jv connection parser query fuel (serving world network)
    (show Undisturbed { network } from ⟨⟨rfl, rfl⟩, rfl⟩)
  rw [done] at ends
  exact (ends finished).resolve_left (by simp [untold])

end Query

/-! ## A session reset, and a slow client -/

/-- A stream of two records over a connection that takes everything. -/
def undisturbedRun : EStateM.Result Exception (World (List GetsReply) (StoredStream Unit))
    (Option StreamEnd) :=
  finishStored openConnection scriptedJVLink plainRecords raceQuery 5
    (serving (initializedWorld [goodReply, goodReply]) ())

theorem clean_end_complete_iff_race :
    (∃ ended, (some .endOfFiles : Option StreamEnd) = some ended ∧ ended.isNormal = true) ↔
      (finalState undisturbedRun).client.resetSeen = false ∧
        (finalState undisturbedRun).client.givenUp = false :=
  clean_end_complete_iff scriptedJVLink openConnection plainRecords raceQuery 5
    (initializedWorld [goodReply, goodReply]) () (ok_of_returned (by decide +kernel))
    (by decide +kernel) (by decide +kernel)

/-- The request of a reset comes with the seventh poll. -/
def resettingConnection : Connection Nat where
  isWritable polls := (true, polls)
  write _ polls := (true, polls)
  heartbeats polls := ((0, .beating), polls)
  resetRequested polls := (polls = 6, polls + 1)

def resetRun : EStateM.Result Exception (World (List GetsReply) (StoredStream Nat))
    (Option StreamEnd) :=
  finishStored resettingConnection scriptedJVLink plainRecords raceQuery 5
    (serving (initializedWorld [goodReply, goodReply]) 0)

/-- One of two records has been written when the response ends, and nothing else tells
the client that there was more to come. -/
theorem reset_truncates_silently :
    ¬ ∀ reason after, resetRun = .ok reason after →
      after.client.finished = true → after.client.errorLine = false →
      ∃ ended, reason = some ended ∧ ended.isNormal = true := by
  intro complete
  have ran : resetRun = .ok none (finalState resetRun) := ok_of_returned (by decide +kernel)
  obtain ⟨ended, absent, -⟩ := complete none _ ran (by decide +kernel) (by decide +kernel)
  cases absent

/-- A slow client lets the sink wait in vain before the second record. -/
def slowConnection : Connection Nat where
  isWritable waits := (waits = 0, waits + 1)
  write _ waits := (true, waits)
  heartbeats waits := ((0, .beating), waits)
  resetRequested waits := (false, waits)

example :
    let stream := (finalState (finishStored slowConnection scriptedJVLink plainRecords raceQuery 5
      (serving (initializedWorld [goodReply, goodReply]) 0))).client
    stream.finished = true ∧ stream.errorLine = false ∧ stream.givenUp = true := by
  decide +kernel

end JVLinkServer.Worker
