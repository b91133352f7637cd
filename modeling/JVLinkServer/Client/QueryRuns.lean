import JVLinkServer.Client.CombinedRuns
import JVLinkServer.Client.CountedRuns

namespace JVLinkServer.Client

open AsyncGenerators

/-! # Runs of a query

What a query opens, and where its consumer stands.
-/

variable {ε : Type}

namespace StoredArguments

variable (arguments : StoredArguments)

/-- A query for one dataspec does not fan out. -/
def isSingle : Bool :=
  match arguments.input.dataspecs with
  | [_] => true
  | _ => false

/-- The dataspecs that a query is about. -/
def queriedSpecs : List String :=
  if arguments.isSingle then arguments.input.dataspecs else arguments.effectiveSpecs

/-- The first request, and the dataspecs to come after it. -/
def opening? : Option (List String × StoredRequest) :=
  match arguments.input.dataspecs with
  | [spec] =>
      some ([], { arguments.request spec arguments.limit with
        recordTypes := arguments.input.recordTypes })
  | _ =>
      match arguments.effectiveSpecs with
      | [] => none
      | first :: pending => some (pending, arguments.request first arguments.limit)

/-- The points to resume from before there is metadata. -/
def noPoints : List (String × Option Bytes) :=
  arguments.input.dataspecs.map fun spec => (spec, none)

/-- Where the consumer stands after some calls, if there is a response to stand in. -/
def standing? (transport : Transport ε) (count : Nat) : Option (Standing ε) :=
  arguments.opening?.bind fun (pending, request) =>
    match transport request with
    | .error _ => none
    | .ok answer =>
        some (standing arguments transport pending arguments.limit request answer count)

/-- The first request is for the whole limit, and for the first of the dataspecs. -/
theorem opening?_eq {pending : List String} {request : StoredRequest}
    (opening : arguments.opening? = some (pending, request)) :
    request.dataspec :: pending = arguments.queriedSpecs ∧
      request.maxRecords = arguments.limit.getD (-1) := by
  unfold opening? at opening
  unfold queriedSpecs isSingle
  split at opening
  · rename_i spec alone
    cases opening
    rw [alone]
    exact ⟨rfl, rfl⟩
  · rename_i several
    split at opening
    · cases opening
    · rename_i specs
      cases opening
      refine ⟨?_, rfl⟩
      split
      · rename_i fans
        cases fans
      · exact specs.symm

theorem standing?_eq {transport : Transport ε} {count : Nat} {reached : Standing ε}
    (stands : arguments.standing? transport count = some reached) :
    ∃ pending request answer,
      reached = standing arguments transport pending arguments.limit request answer count ∧
      transport request = .ok answer ∧ request.dataspec :: pending = arguments.queriedSpecs ∧
      request.maxRecords = arguments.limit.getD (-1) := by
  unfold standing? at stands
  cases opening : arguments.opening? with
  | none => simp [opening] at stands
  | some opened =>
      obtain ⟨pending, request⟩ := opened
      simp only [opening, Option.bind_some] at stands
      cases answers : transport request with
      | error exception => simp [answers] at stands
      | ok answer =>
          simp only [answers, Option.some.injEq] at stands
          exact ⟨pending, request, answer, stands.symm, answers, arguments.opening?_eq opening⟩

theorem queriedSpecs_nodup : arguments.queriedSpecs.Nodup := by
  unfold queriedSpecs
  split
  · exact arguments.input.distinct
  · exact List.filter_sublist.nodup arguments.input.distinct

theorem fanoutMeta_facts :
    arguments.fanoutMeta.resumeFromDatetimeByDataspec = arguments.noPoints ∧
      arguments.fanoutMeta.streamedRecords = 0 ∧ arguments.fanoutMeta.completed = false := by
  have skips (specs : List String) (metadata : StoredQueryMeta) :
      let skipped := specs.foldl
        (fun metadata spec => metadata.upsertPerDataspec spec skippedPayload)
        metadata
      skipped.resumeFromDatetimeByDataspec = metadata.resumeFromDatetimeByDataspec ∧
        skipped.streamedRecords = metadata.streamedRecords ∧
        skipped.completed = metadata.completed := by
    induction specs generalizing metadata with
    | nil => exact ⟨rfl, rfl, rfl⟩
    | cons spec specs ih => exact ih (metadata.upsertPerDataspec spec _)
  exact skips _ _

end StoredArguments

/-- What a stored query can have opened, before the first call. -/
inductive Opens (arguments : StoredArguments) (transport : Transport ε) : QueryRows ε → Prop
  | nothing {metadata : StoredQueryMeta} (fans : arguments.isSingle = false)
      (opening : arguments.opening? = none) (ineffective : arguments.effectiveSpecs = [])
      (resume : metadata.resumeFromDatetimeByDataspec = arguments.noPoints)
      (streamed : metadata.streamedRecords = 0) (completed : metadata.completed = true) :
      Opens arguments transport (.none metadata)
  | single {request : StoredRequest} {answer : Answer ε} {counted : Frame × (Tally × RowStream ε)}
      (alone : arguments.isSingle = true) (spec : arguments.input.dataspecs = [request.dataspec])
      (opening : arguments.opening? = some ([], request))
      (answers : transport request = .ok answer) (created : counted.1 = .created)
      (stands : CountedStands arguments arguments.noPoints { request, answer, taken := 0 } counted) :
      Opens arguments transport (.single arguments counted)
  | fanout {pending : List String} {request : StoredRequest} {answer : Answer ε}
      {combined : Frame × Fanout ε} (fans : arguments.isSingle = false)
      (opening : arguments.opening? = some (pending, request))
      (answers : transport request = .ok answer) (created : combined.1 = .created)
      (stands : Fanout.Stands arguments arguments.noPoints { request, answer, taken := 0 } combined)
      (next : combined.2.pending = pending) :
      Opens arguments transport (.fanout arguments transport combined)

section Opening

variable {arguments : StoredArguments} {transport : Transport ε} {rows : QueryRows ε}

/-- The variables when the first metadata has been merged. -/
theorem Tally.stands_opening {request : StoredRequest} {answer : Answer ε}
    {metadata : StoredQueryMeta}
    (resume : metadata.resumeFromDatetimeByDataspec = arguments.noPoints)
    (streamed : metadata.streamedRecords = 0) (completed : metadata.completed = false) :
    Tally.Stands arguments.limit arguments.noPoints arguments.excludeDeletions
      { request, answer, taken := 0 }
      { remaining := arguments.limit
        metadata := metadata.merge request.dataspec answer.metadata } where
  remaining := by
    cases limit : arguments.limit <;> simp [Standing.yielded]
  streamed := streamed
  resume := by simp [resume, Standing.resumePoints, Standing.legs]
  completed := completed

theorem queryStoredRawFanout_stands (opened : queryStoredRawFanout arguments transport = .ok rows) :
    (arguments.effectiveSpecs = [] ∧
        rows = .none { arguments.fanoutMeta with completed := true }) ∨
      ∃ first pending answer combined, arguments.effectiveSpecs = first :: pending ∧
        transport (arguments.request first arguments.limit) = .ok answer ∧
        rows = .fanout arguments transport (.created, combined) ∧
        combined.pending = pending ∧
        Fanout.Stands arguments arguments.noPoints
          { request := arguments.request first arguments.limit, answer, taken := 0 }
          (.created, combined) := by
  obtain ⟨resume, streamed, completed⟩ := arguments.fanoutMeta_facts
  unfold queryStoredRawFanout at opened
  cases specs : arguments.effectiveSpecs with
  | nil =>
      rw [specs] at opened
      cases opened
      exact .inl ⟨rfl, rfl⟩
  | cons first pending =>
      rw [specs] at opened
      cases answers : transport (arguments.request first arguments.limit) with
      | error exception =>
          simp only [answers] at opened
          cases opened
      | ok answer =>
          simp only [answers] at opened
          cases opened
          exact .inr ⟨first, pending, answer, _, rfl, answers, rfl, rfl,
            { tally := Tally.stands_opening resume streamed completed
              requests := rfl
              done := rfl
              spec := rfl
              response := rfl
              going := fun _ => ⟨by simp, rfl, rfl, .inl ⟨rfl, rfl, rfl⟩⟩
              finished := fun ended => absurd rfl ended }⟩

theorem queryStoredRawFanout_opens (fans : arguments.isSingle = false)
    (opening : arguments.opening? = match arguments.effectiveSpecs with
      | [] => none
      | first :: pending => some (pending, arguments.request first arguments.limit))
    (opened : queryStoredRawFanout arguments transport = .ok rows) :
    Opens arguments transport rows := by
  rcases queryStoredRawFanout_stands opened with
    ⟨ineffective, rfl⟩ | ⟨first, pending, answer, combined, specs, answers, rfl, next, stands⟩
  · rw [ineffective] at opening
    obtain ⟨resume, streamed, -⟩ := arguments.fanoutMeta_facts
    exact .nothing fans opening ineffective resume streamed rfl
  · rw [specs] at opening
    exact .fanout fans opening answers rfl stands next

theorem queryStoredRaw_opens (opened : queryStoredRaw arguments transport = .ok rows) :
    Opens arguments transport rows := by
  unfold queryStoredRaw at opened
  split at opened
  · rename_i spec specs
    cases answers : transport { arguments.request spec arguments.limit with
        recordTypes := arguments.input.recordTypes } with
    | error exception =>
        rw [answers] at opened
        cases opened
    | ok answer =>
        rw [answers] at opened
        cases opened
        have points : [(spec, none)] = arguments.noPoints := by
          simp [StoredArguments.noPoints, specs]
        exact .single (by simp [StoredArguments.isSingle, specs]) specs
          (by simp [StoredArguments.opening?, specs]) answers rfl
          { tally := Tally.stands_opening points rfl rfl
            response := rfl
            going := fun _ => ⟨rfl, rfl, .inl ⟨rfl, rfl, rfl⟩⟩
            finished := fun ended => absurd rfl ended }
  · rename_i several
    have fans : arguments.isSingle = false := by
      unfold StoredArguments.isSingle
      split
      · rename_i spec alone
        exact absurd alone (several spec)
      · rfl
    refine queryStoredRawFanout_opens fans ?_ opened
    unfold StoredArguments.opening?
    split
    · rename_i spec alone
      exact absurd alone (several spec)
    · rfl

end Opening

/-! ## Stopping -/

namespace Standing

variable (arguments : StoredArguments) (standing : Standing ε)

/-- Whether the last response is closed when the consumer has closed, too. -/
def closes (count : Nat) : Bool :=
  match standing.ended with
  | none => standing.answer.noData ||
      (decide (0 < count) && arguments.isSingle && !arguments.excludeDeletions)
  | some .limit => standing.answer.noData ||
      (decide (0 < standing.taken) && !arguments.excludeDeletions)
  | some _ => true

/-- What `completed` is then. -/
def saysCompleted (count : Nat) : Bool :=
  decide (0 < count) &&
    match standing.ended with
    | none =>
        match arguments.limit with
        | some limit => limit ≤ (standing.yielded arguments.excludeDeletions).length
        | none => false
    | some stop => stop.completes

end Standing

/-- What a stored query leaves behind when its consumer has stopped. -/
structure Leaves (arguments : StoredArguments) (standing : Standing ε) (count : Nat)
    (rows : QueryRows ε) : Prop where
  streams : rows.streams = standing.doneResponses ++
    [(standing.request.dataspec,
      { standing.response arguments.excludeDeletions with closed := standing.closes arguments count })]
  responses : rows.responses = rows.streams.map (·.2)
  metadata : ∃ metadata, rows.metadata? = some metadata ∧
    metadata.streamedRecords = (standing.yielded arguments.excludeDeletions).length ∧
    metadata.resumeFromDatetimeByDataspec = standing.resumePoints arguments.noPoints ∧
    metadata.completed = standing.saysCompleted arguments count

section Leaving

variable {arguments : StoredArguments} {transport : Transport ε} {request : StoredRequest}
  {answer : Answer ε}

@[simp] theorem standing_zero (pending : List String) (remaining : Option Int) :
    standing arguments transport pending remaining request answer 0 =
      { request, answer, taken := 0 } := by
  rw [standing.eq_def]
  simp

/-- The first request of a single dataspec is the last. -/
theorem standing_single (arguments : StoredArguments) (transport : Transport ε)
    (request : StoredRequest) (answer : Answer ε) (remaining : Option Int) (count : Nat) :
    let single := standing arguments transport [] remaining request answer count
    single.done = [] ∧ single.request = request ∧ single.answer = answer ∧
      (single.ended = none → single.taken = count) := by
  rw [standing]
  dsimp only
  split
  · exact ⟨rfl, rfl, rfl, fun _ => rfl⟩
  · split
    · exact ⟨rfl, rfl, rfl, fun going => by cases going⟩
    · cases answer.failure with
      | none => exact ⟨rfl, rfl, rfl, fun going => by cases going⟩
      | some exception => exact ⟨rfl, rfl, rfl, fun going => by cases going⟩

/-- The variables of a generator that is closed at a `yield`. -/
theorem Tally.Stands.tells {tally : Tally} {standing : Standing ε} {count : Nat}
    (stands : tally.Stands arguments.limit arguments.noPoints arguments.excludeDeletions standing)
    (started : 0 < count) (going : standing.ended = none) :
    tally.limitReached = standing.saysCompleted arguments count := by
  have remaining := stands.remaining
  unfold Tally.limitReached Standing.saysCompleted
  rw [going, remaining]
  cases arguments.limit with
  | none => simp
  | some limit =>
      have same (length : Int) : limit - length ≤ 0 ↔ limit ≤ length := by omega
      simp [started, same]

theorem frameAfter_pos {taken : Nat} : frameAfter taken = .suspended ↔ 0 < taken := by
  cases taken <;> simp [frameAfter]

/-- A standing at which the query has ended leaves what it has. -/
theorem Standing.closes_ended {standing : Standing ε} (ended : standing.ended ≠ none)
    (count : Nat) :
    { standing.response arguments.excludeDeletions with closed := standing.closes arguments count } =
      standing.response arguments.excludeDeletions := by
  unfold Standing.response Standing.closes
  cases reason : standing.ended with
  | none => exact absurd reason ended
  | some stop =>
      cases stop with
      | limit =>
          have suspended : (frameAfter standing.taken == .suspended) = decide (0 < standing.taken) := by
            rw [Bool.eq_iff_iff, beq_iff_eq, decide_eq_true_iff, frameAfter_pos]
          simp only [suspended]
      | _ => rfl

theorem Standing.closes_fanout {standing : Standing ε} (fans : arguments.isSingle = false)
    (going : standing.ended = none) (count : Nat) :
    { standing.response arguments.excludeDeletions with closed := standing.closes arguments count } =
      standing.response arguments.excludeDeletions := by
  simp [Standing.response, Standing.closes, going, fans, Answer.responseAfter]

theorem standing_started {pending : List String} {remaining : Option Int} {count : Nat}
    (ended : (standing arguments transport pending remaining request answer count).ended ≠ none) :
    0 < count := by
  cases count with
  | zero => exact absurd (by rw [standing_zero]) ended
  | succ count => exact Nat.succ_pos count

theorem Standing.saysCompleted_ended {standing : Standing ε} {count : Nat} (started : 0 < count)
    (ended : standing.ended ≠ none) :
    standing.completed = standing.saysCompleted arguments count := by
  unfold Standing.completed Standing.saysCompleted
  cases reason : standing.ended with
  | none => exact absurd reason ended
  | some stop => simp [started]

theorem Opens.leaves_single {counted : Frame × (Tally × RowStream ε)}
    (alone : arguments.isSingle = true) (spec : arguments.input.dataspecs = [request.dataspec])
    (stands : CountedStands arguments arguments.noPoints { request, answer, taken := 0 } counted)
    (count : Nat) :
    Leaves arguments (standing arguments transport [] arguments.limit request answer count) count
      (.single arguments ((countedRows (records arguments.excludeDeletions)).stopAfter count
        counted)) := by
  obtain ⟨ran, -⟩ := stands.run transport count
  obtain ⟨done, asked, answered, whole⟩ :=
    standing_single arguments transport request answer arguments.limit count
  rw [AsyncIterator.stopAfter]
  generalize (countedRows (records arguments.excludeDeletions)).pull count counted = state at ran ⊢
  obtain ⟨frame, tally, rows⟩ := state
  by_cases going : (standing arguments transport [] arguments.limit request answer count).ended = none
  · obtain ⟨frame_eq, unexhausted, paused⟩ := ran.going going
    have response : rows.response = (answer.responseAfter arguments.excludeDeletions count) := by
      have reached := ran.response
      rwa [Standing.response, going, answered, whole going] at reached
    dsimp only at frame_eq unexhausted paused
    rw [whole going] at frame_eq
    cases count with
    | zero =>
        obtain rfl : frame = .created := frame_eq
        exact
          { streams := by
              simp [QueryRows.streams, spec, Standing.doneResponses, Standing.closes,
                Standing.response, countedRows, limitedRows, response, Answer.responseAfter]
            responses := by simp [QueryRows.streams, QueryRows.responses, spec]
            metadata := ⟨tally.metadata, rfl, ran.tally.streamed, ran.tally.resume,
              by rw [ran.tally.completed, standing_zero]; rfl⟩ }
    | succ count =>
        obtain rfl : frame = .suspended := frame_eq
        have closed := paused.aclose
        exact
          { streams := by
              have left : ((countedRows (records arguments.excludeDeletions)).aclose
                  (.suspended, (tally, rows))).2.2 =
                    (records arguments.excludeDeletions).aclose rows := rfl
              simp only [QueryRows.streams, spec, Standing.doneResponses, done, asked, left,
                Standing.closes, going, Standing.response, answered, whole going]
              simp [closed, response, alone, Answer.responseAfter]
            responses := by simp [QueryRows.streams, QueryRows.responses, spec]
            metadata := ⟨tally.complete.metadata, rfl, ran.tally.streamed, ran.tally.resume, by
              rw [← ran.tally.tells (Nat.succ_pos count) going, Tally.complete, unexhausted,
                Bool.false_or]⟩ }
  · obtain rfl : frame = .finished := ran.finished going
    exact
      { streams := by
          rw [Standing.closes_ended going, Standing.doneResponses, done, asked]
          have response := ran.response
          simp [QueryRows.streams, spec]
          exact response
        responses := by simp [QueryRows.streams, QueryRows.responses, spec]
        metadata := ⟨tally.metadata, rfl, ran.tally.streamed, ran.tally.resume,
          ran.tally.completed.trans (Standing.saysCompleted_ended (standing_started going) going)⟩ }

theorem Opens.leaves_fanout {combined : Frame × Fanout ε} {pending : List String}
    (fans : arguments.isSingle = false) (created : combined.1 = .created)
    (stands : Fanout.Stands arguments arguments.noPoints { request, answer, taken := 0 } combined)
    (next : combined.2.pending = pending) (count : Nat) :
    Leaves arguments (standing arguments transport pending arguments.limit request answer count)
      count (.fanout arguments transport
        ((combinedRows arguments transport).stopAfter count combined)) := by
  obtain ⟨ran, -, -, suspended⟩ := stands.run transport pending next count
  rw [leftAfter_nil, Standing.behind_nil] at ran suspended
  rw [AsyncIterator.stopAfter]
  by_cases going : (standing arguments transport pending arguments.limit request answer
      count).ended = none
  · obtain ⟨-, unprocessed, -, -⟩ := ran.going going
    have open_ := Standing.closes_fanout fans going count
    cases count with
    | zero =>
        obtain ⟨frame, state⟩ := combined
        obtain rfl : frame = .created := created
        exact
          { streams := by rw [open_, ← ran.response, ← ran.done, ← ran.spec]; rfl
            responses := by simp [QueryRows.streams, QueryRows.responses]
            metadata := ⟨state.tally.metadata, rfl, ran.tally.streamed, ran.tally.resume,
              by rw [standing_zero] at ran ⊢; exact ran.tally.completed⟩ }
    | succ count =>
        have standsAt := suspended going (Nat.succ_pos count)
        generalize (combinedRows arguments transport).pull (count + 1) combined = state
          at ran standsAt unprocessed
        obtain ⟨frame, state⟩ := state
        obtain rfl : frame = .suspended := standsAt
        exact
          { streams := by rw [open_, ← ran.response, ← ran.done, ← ran.spec]; rfl
            responses := by simp [QueryRows.streams, QueryRows.responses]
            metadata := ⟨(Fanout.complete state).tally.metadata, rfl, ran.tally.streamed,
              ran.tally.resume, by
                dsimp only at unprocessed
                rw [← ran.tally.tells (Nat.succ_pos count) going, Fanout.complete, unprocessed,
                  Bool.false_or]⟩ }
  · have finished := ran.finished going
    generalize (combinedRows arguments transport).pull count combined = state at ran finished
    obtain ⟨frame, state⟩ := state
    obtain rfl : frame = .finished := finished
    exact
      { streams := by
          rw [Standing.closes_ended going, ← ran.response, ← ran.done, ← ran.spec]
          rfl
        responses := by simp [QueryRows.streams, QueryRows.responses]
        metadata := ⟨state.tally.metadata, rfl, ran.tally.streamed, ran.tally.resume,
          ran.tally.completed.trans (Standing.saysCompleted_ended (standing_started going) going)⟩ }

end Leaving

section Iterator

theorem QueryRows.iterator_settles : (QueryRows.iterator (ε := ε)).Settles := by
  rintro (rows | ⟨arguments, counted⟩ | ⟨arguments, transport, combined⟩ | metadata) stops
  · have settled := generator_settles rows.2 stops
    exact ⟨congrArg (fun called => (called.1, QueryRows.realtime (rows.1, called.2))) settled.1,
      congrArg (fun closed => QueryRows.realtime (rows.1, closed)) settled.2⟩
  · have settled := generator_settles counted stops
    exact ⟨congrArg (fun called => (called.1, QueryRows.single arguments called.2)) settled.1,
      congrArg (QueryRows.single arguments) settled.2⟩
  · have settled := generator_settles combined stops
    exact ⟨congrArg (fun called => (called.1, QueryRows.fanout arguments transport called.2)) settled.1,
      congrArg (QueryRows.fanout arguments transport) settled.2⟩
  · exact ⟨rfl, rfl⟩

variable {arguments : StoredArguments} {transport : Transport ε} {rows : QueryRows ε}

theorem single_values (counted : Frame × (Tally × RowStream ε)) (count : Nat) :
    QueryRows.iterator.values count (.single arguments counted) =
      (countedRows (records arguments.excludeDeletions)).values count counted :=
  AsyncIterator.values_embed (QueryRows.single arguments) (fun _ => rfl) count counted

theorem single_stopAfter (counted : Frame × (Tally × RowStream ε)) (count : Nat) :
    QueryRows.iterator.stopAfter count (.single arguments counted) =
      .single arguments
        ((countedRows (records arguments.excludeDeletions)).stopAfter count counted) := by
  have pulled : QueryRows.iterator.pull count (.single arguments counted) = _ :=
    AsyncIterator.pull_embed (QueryRows.single arguments) (fun _ => rfl) count counted
  rw [AsyncIterator.stopAfter, pulled]
  rfl

theorem fanout_values (combined : Frame × Fanout ε) (count : Nat) :
    QueryRows.iterator.values count (.fanout arguments transport combined) =
      (combinedRows arguments transport).values count combined :=
  AsyncIterator.values_embed (QueryRows.fanout arguments transport) (fun _ => rfl) count combined

theorem fanout_stopAfter (combined : Frame × Fanout ε) (count : Nat) :
    QueryRows.iterator.stopAfter count (.fanout arguments transport combined) =
      .fanout arguments transport ((combinedRows arguments transport).stopAfter count combined) := by
  have pulled : QueryRows.iterator.pull count (.fanout arguments transport combined) = _ :=
    AsyncIterator.pull_embed (QueryRows.fanout arguments transport) (fun _ => rfl) count combined
  rw [AsyncIterator.stopAfter, pulled]
  rfl

theorem nothing_stopAfter (metadata : StoredQueryMeta) (count : Nat) :
    QueryRows.iterator.stopAfter count (.none metadata : QueryRows ε) = .none metadata := by
  have ended : QueryRows.iterator.anext (.none metadata : QueryRows ε) = (.ends, .none metadata) :=
    rfl
  rw [AsyncIterator.stopAfter, AsyncIterator.pull_ended ended]
  rfl

theorem Opens.standing? (opens : Opens arguments transport rows) (count : Nat) :
    (arguments.standing? transport count = none ∧ ∃ metadata, rows = .none metadata ∧
      arguments.effectiveSpecs = [] ∧
      metadata.resumeFromDatetimeByDataspec = arguments.noPoints ∧
      metadata.streamedRecords = 0 ∧ metadata.completed = true) ∨
      ∃ standing, arguments.standing? transport count = some standing ∧
        Leaves arguments standing count (QueryRows.iterator.stopAfter count rows) ∧
        QueryRows.iterator.values count rows = standing.yielded arguments.excludeDeletions := by
  cases opens with
  | nothing fans opening ineffective resume streamed completed =>
      exact .inl ⟨by rw [StoredArguments.standing?, opening]; rfl, _, rfl, ineffective, resume,
        streamed, completed⟩
  | @single request answer counted alone spec opening answers created stands =>
      refine .inr ⟨standing arguments transport [] arguments.limit request answer count,
        by simp only [StoredArguments.standing?, opening, Option.bind_some, answers], ?_, ?_⟩
      · rw [single_stopAfter]
        exact leaves_single alone spec stands count
      · rw [single_values, (stands.run transport count).2]
  | @fanout pending request answer combined fans opening answers created stands next =>
      refine .inr ⟨standing arguments transport pending arguments.limit request answer count,
        by simp only [StoredArguments.standing?, opening, Option.bind_some, answers], ?_, ?_⟩
      · rw [fanout_stopAfter]
        exact leaves_fanout fans created stands next count
      · have ran := stands.run transport _ next count
        rw [leftAfter_nil, Standing.behind_nil] at ran
        rw [fanout_values, ran.yielded]
        rfl

end Iterator

end JVLinkServer.Client
