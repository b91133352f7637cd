import JVLinkServer.Client.ResumePoints

namespace JVLinkServer.Client

open AsyncGenerators

/-! # What `completed` says -/

variable {ε β : Type}

/-- The records that have been received of a dataspec. -/
def QueryRows.received (rows : QueryRows ε) (spec : String) : List Json :=
  ((rows.streams.lookup spec).map Response.received).getD []

/-- `completed` says whether the limit was reached or all has been received, and if so no
record is left that was still wanted. -/
def QueryRows.TellsTruth (arguments : StoredArguments) (held : String → List Json)
    (rows : QueryRows ε) : Prop :=
  ∀ metadata ∈ rows.metadata?,
    (metadata.completed = true ↔ arguments.maxRecords = metadata.streamedRecords ∨
      ∀ spec ∈ arguments.queriedSpecs, rows.received spec = held spec) ∧
    (metadata.completed = true → arguments.maxRecords = metadata.streamedRecords ∨
      ∀ spec ∈ arguments.queriedSpecs,
        keptRows arguments.excludeDeletions
          ((held spec).drop (rows.received spec).length) = [])

namespace Standing

variable (arguments : StoredArguments) (held : String → List Json) (standing : Standing ε)

/-- The records that have been received of a dataspec. -/
def received (spec : String) : List Json :=
  let streams := standing.doneResponses ++
    [(standing.request.dataspec, standing.response arguments.excludeDeletions)]
  ((streams.lookup spec).map Response.received).getD []

/-- Below the limit, no request for a dataspec that has deletions among its records is cut
short by the limit; and where the query did not come to its end, something is outstanding.
At the limit, the iteration has begun. -/
def TellsTruth (count : Nat) : Prop :=
  if arguments.maxRecords = (standing.yielded arguments.excludeDeletions).length then 0 < count
  else
    match standing.ended with
    | some .exhausted =>
        arguments.excludeDeletions = true → ∀ leg ∈ standing.legs, 0 < leg.1.maxRecords →
          ((held leg.1.dataspec).length : Int) ≤ leg.1.maxRecords
    | _ => ∃ spec ∈ arguments.queriedSpecs, standing.received arguments spec ≠ held spec

end Standing

/-- What has come out, against the limit. -/
def Against (limit : Option Int) (ended : Option (Stop ε)) (yielded : Nat) : Prop :=
  match ended with
  | none => ∀ most ∈ limit, (yielded : Int) ≤ most
  | some .limit => limit = some (yielded : Int)
  | some _ => ∀ most ∈ limit, (yielded : Int) < most

section Limit

variable {arguments : StoredArguments} {transport : Transport ε}

theorem Against.shift {limit : Option Int} {ended : Option (Stop ε)} {first yielded : Nat}
    (against : Against (limit.map (· - (first : Int))) ended yielded) :
    Against limit ended (first + yielded) := by
  cases limit with
  | none =>
      match ended, against with
      | none, _ => simp [Against]
      | some .exhausted, _ => simp [Against]
      | some (.failed _), _ => simp [Against]
      | some (.refused _ _), _ => simp [Against]
  | some most =>
      match ended, against with
      | none, against | some .limit, against | some .exhausted, against
      | some (.failed _), against | some (.refused _ _), against =>
          simp only [Against, Option.map_some, Option.mem_def, Option.some.injEq, forall_eq']
            at against ⊢
          omega

theorem against_of_room {limit : Option Int} {rows : List Json}
    (room : limitHit limit rows = false) :
    ∀ most ∈ limit, (rows.length : Int) < most := by
  intro most among
  have left := left_of_room room _ (Option.mem_map_of_mem _ among)
  omega

theorem standing_against (arguments : StoredArguments) (transport : Transport ε) :
    ∀ (pending : List String) (remaining : Option Int)
    (request : StoredRequest) (answer : Answer ε) (count : Nat),
    (∀ limit ∈ remaining, 0 ≤ limit) →
    Against remaining
      (standing arguments transport pending remaining request answer count).ended
      ((standing arguments transport pending remaining request answer count).yielded
        arguments.excludeDeletions).length
  | pending, remaining, request, answer, count, nonnegative => by
      by_cases within : count ≤ share remaining (keptRows arguments.excludeDeletions answer.rows)
      · rw [standing_within within]
        intro most among
        have positive := nonnegative most among
        cases among
        simp only [Standing.yielded, List.flatMap_nil, List.nil_append, List.length_take]
        unfold share at within
        dsimp only at within
        omega
      have past := Nat.lt_of_not_le within
      cases hit : limitHit remaining (keptRows arguments.excludeDeletions answer.rows) with
      | true =>
          rw [standing_hit past hit]
          cases remaining with
          | none => simp [limitHit] at hit
          | some most =>
              have positive := nonnegative most rfl
              simp only [limitHit, decide_eq_true_eq] at hit
              simp only [Against, Standing.yielded, List.flatMap_nil, List.nil_append,
                List.length_take, share, Option.some.injEq]
              omega
      | false =>
          have room := against_of_room hit
          have all (ended : Option (Stop ε)) : (Standing.yielded arguments.excludeDeletions
              { request, answer, ended
                taken := (keptRows arguments.excludeDeletions answer.rows).length }).length =
                  (keptRows arguments.excludeDeletions answer.rows).length := by
            simp [Standing.yielded]
          cases failure : answer.failure with
          | some exception =>
              rw [standing_failed past hit failure, all]
              exact room
          | none =>
              cases pending with
              | nil =>
                  rw [standing_exhausted past hit failure, all]
                  exact room
              | cons spec rest =>
                  cases answers : transport (arguments.request spec (remaining.map
                      (· - ((keptRows arguments.excludeDeletions answer.rows).length : Int)))) with
                  | error exception =>
                      rw [standing_refused past hit failure rfl answers, all]
                      exact room
                  | ok answered =>
                      rw [standing_next past hit failure rfl answers, yielded_behind,
                        List.length_append]
                      exact Against.shift (standing_against arguments transport rest _ _ answered _
                        fun limit among => Int.le_of_lt (left_of_room hit limit among))

/-- A leg that was read to its end, without a failure and below its limit. -/
structure ReadToEnd (arguments : StoredArguments) (transport : Transport ε) (leg : Leg ε) :
    Prop where
  answers : transport leg.1 = .ok leg.2
  failure : leg.2.failure = none
  below : 0 < leg.1.maxRecords →
    ((keptRows arguments.excludeDeletions leg.2.rows).length : Int) < leg.1.maxRecords

theorem legs_behind (leg : Leg ε) (standing : Standing ε) :
    (standing.behind [leg]).legs = leg :: standing.legs := by
  simp [Standing.behind, Standing.legs]

/-- Exhaustion has read a leg for each dataspec. -/
theorem standing_exhausted_legs (arguments : StoredArguments) (transport : Transport ε) :
    ∀ (pending : List String) (remaining : Option Int)
    (request : StoredRequest) (answer : Answer ε) (count : Nat),
    transport request = .ok answer → request.maxRecords = remaining.getD (-1) →
    (standing arguments transport pending remaining request answer count).ended =
      some .exhausted →
    (standing arguments transport pending remaining request answer count).legs.map
        (·.1.dataspec) = request.dataspec :: pending ∧
      ∀ leg ∈ (standing arguments transport pending remaining request answer count).legs,
        ReadToEnd arguments transport leg
  | pending, remaining, request, answer, count, answers, asks, exhausted => by
      by_cases within : count ≤ share remaining (keptRows arguments.excludeDeletions answer.rows)
      · rw [standing_within within] at exhausted
        cases exhausted
      have past := Nat.lt_of_not_le within
      cases hit : limitHit remaining (keptRows arguments.excludeDeletions answer.rows) with
      | true =>
          rw [standing_hit past hit] at exhausted
          cases exhausted
      | false =>
          cases failure : answer.failure with
          | some exception =>
              rw [standing_failed past hit failure] at exhausted
              cases exhausted
          | none =>
              have read : ReadToEnd arguments transport (request, answer) :=
                { answers, failure, below := fun positive => by
                    have room := against_of_room hit
                    cases remaining with
                    | none =>
                        rw [asks] at positive
                        cases positive
                    | some most => exact asks ▸ room most rfl }
              cases pending with
              | nil =>
                  rw [standing_exhausted past hit failure]
                  exact ⟨rfl, fun leg among => List.mem_singleton.1 among ▸ read⟩
              | cons spec rest =>
                  cases given : transport (arguments.request spec (remaining.map
                      (· - ((keptRows arguments.excludeDeletions answer.rows).length : Int)))) with
                  | error exception =>
                      rw [standing_refused past hit failure rfl given] at exhausted
                      cases exhausted
                  | ok answered =>
                      rw [standing_next past hit failure rfl given] at exhausted ⊢
                      obtain ⟨specs, each⟩ :=
                        standing_exhausted_legs arguments transport rest _ _ answered _ given rfl exhausted
                      rw [legs_behind, List.map_cons, specs]
                      exact ⟨rfl, List.forall_mem_cons.2 ⟨read, each⟩⟩

/-- The legs have been answered, those that are done without a failure. -/
theorem standing_answers (arguments : StoredArguments) (transport : Transport ε) :
    ∀ (pending : List String) (remaining : Option Int) (request : StoredRequest)
      (answer : Answer ε) (count : Nat), transport request = .ok answer →
      (∀ leg ∈ (standing arguments transport pending remaining request answer count).legs,
        transport leg.1 = .ok leg.2) ∧
      ∀ leg ∈ (standing arguments transport pending remaining request answer count).done,
        leg.2.failure = none
  | pending, remaining, request, answer, count, answers => by
      have alone (taken : Nat) (ended : Option (Stop ε)) :
          (∀ leg ∈ Standing.legs { request, answer, taken, ended }, transport leg.1 = .ok leg.2) ∧
            ∀ leg ∈ ([] : List (Leg ε)), leg.2.failure = none := by
        simpa [Standing.legs] using answers
      by_cases within : count ≤ share remaining (keptRows arguments.excludeDeletions answer.rows)
      · rw [standing_within within]
        exact alone _ _
      have past := Nat.lt_of_not_le within
      cases hit : limitHit remaining (keptRows arguments.excludeDeletions answer.rows) with
      | true =>
          rw [standing_hit past hit]
          exact alone _ _
      | false =>
          cases failure : answer.failure with
          | some exception =>
              rw [standing_failed past hit failure]
              exact alone _ _
          | none =>
              cases pending with
              | nil =>
                  rw [standing_exhausted past hit failure]
                  exact alone _ _
              | cons spec rest =>
                  cases given : transport (arguments.request spec (remaining.map
                      (· - ((keptRows arguments.excludeDeletions answer.rows).length : Int)))) with
                  | error exception =>
                      rw [standing_refused past hit failure rfl given]
                      exact alone _ _
                  | ok answered =>
                      rw [standing_next past hit failure rfl given, legs_behind]
                      obtain ⟨each, whole⟩ :=
                        standing_answers arguments transport rest _ _ answered _ given
                      exact ⟨List.forall_mem_cons.2 ⟨answers, each⟩,
                        List.forall_mem_cons.2 ⟨failure, whole⟩⟩

end Limit

section Truth

variable {arguments : StoredArguments} {transport : Transport ε} {held : String → List Json}
  {standing : Standing ε} {count : Nat}

/-- What has been received of a leg that was read to its end. -/
theorem Standing.received_leg (distinct : (standing.legs.map (·.1.dataspec)).Nodup)
    (exhausted : standing.ended = some .exhausted) {leg : Leg ε} (among : leg ∈ standing.legs) :
    standing.received arguments leg.1.dataspec = leg.2.rows := by
  have keys : ((standing.doneResponses ++ [(standing.request.dataspec,
      standing.response arguments.excludeDeletions)]).map (·.1)).Nodup := by
    simpa [Standing.doneResponses, Standing.legs, Function.comp_def] using distinct
  have whole (response : Response ε) (sent : response.sent = leg.2.rows)
      (read : response.rows = []) : response.received = leg.2.rows := by
    rw [Response.received, sent, read, List.length_nil, Nat.sub_zero, List.take_length]
  have stream : ∃ response : Response ε, (leg.1.dataspec, response) ∈ standing.doneResponses ++
        [(standing.request.dataspec, standing.response arguments.excludeDeletions)] ∧
      response.sent = leg.2.rows ∧ response.rows = [] := by
    rcases List.mem_append.1 among with done | last
    · exact ⟨_, List.mem_append_left _ (List.mem_map_of_mem done), rfl, rfl⟩
    · obtain rfl := List.mem_singleton.1 last
      refine ⟨_, List.mem_append_right _ (List.mem_singleton_self _), ?_⟩
      simp [Standing.response, exhausted]
  obtain ⟨response, held, sent, read⟩ := stream
  rw [Standing.received, (lookup_eq_some keys).2 held, Option.map_some, Option.getD_some,
    whole response sent read]

/-- A server sends all that it holds unless the limit of the request cuts it short. -/
theorem sentOf_eq_held {request : StoredRequest} :
    sentOf held request = held request.dataspec ↔
      (0 < request.maxRecords → ((held request.dataspec).length : Int) ≤ request.maxRecords) := by
  unfold sentOf
  split
  · rename_i positive
    constructor
    · intro same _
      have lengths := congrArg List.length same
      rw [List.length_take] at lengths
      omega
    · intro fits
      have bound := fits positive
      exact List.take_of_length_le (by omega)
  · rename_i unlimited
    exact ⟨fun _ positive => absurd positive unlimited, fun _ => rfl⟩

/-- With a server that sends what it holds, points are safe unless a limit was too low. -/
theorem Standing.resumesSafely_iff_fits (sends : SendsHeld transport held)
    (stands : arguments.standing? transport count = some standing) :
    standing.ResumesSafely arguments.excludeDeletions held ↔
      (∀ leg ∈ standing.legs, ∀ point ∈ StoredQueryMeta.lastTimestamp? leg.2.metadata,
        acceptsPoint point = true ∧ (0 < leg.1.maxRecords →
          ((held leg.1.dataspec).length : Int) ≤ leg.1.maxRecords)) ∧
      ∀ point ∈ StoredQueryMeta.lastTimestamp? standing.answer.metadata,
        standing.unread arguments.excludeDeletions = [] ∧ standing.answer.failure = none := by
  obtain ⟨pending, request, answer, rfl, answers, -, -⟩ := arguments.standing?_eq stands
  obtain ⟨given, whole⟩ := standing_answers arguments transport pending arguments.limit request
    answer count answers
  generalize standing arguments transport pending arguments.limit request answer count = standing
    at *
  have fits (leg : Leg ε) (among : leg ∈ standing.legs) (point : Bytes)
      (timestamp : point ∈ StoredQueryMeta.lastTimestamp? leg.2.metadata)
      (read : ∀ point ∈ StoredQueryMeta.lastTimestamp? standing.answer.metadata,
        standing.unread arguments.excludeDeletions = [] ∧ standing.answer.failure = none) :
      leg.2.rows = held leg.1.dataspec ↔
        (0 < leg.1.maxRecords → ((held leg.1.dataspec).length : Int) ≤ leg.1.maxRecords) := by
    have failure : leg.2.failure = none := by
      rcases List.mem_append.1 among with done | last
      · exact whole leg done
      · obtain rfl := List.mem_singleton.1 last
        exact (read point timestamp).2
    rw [(sends _ _ (given leg among)).2 failure, sentOf_eq_held]
  constructor
  · intro safe
    refine ⟨fun leg among point timestamp => ⟨safe.accepted leg among point timestamp, ?_⟩,
      safe.read⟩
    exact (fits leg among point timestamp safe.read).1 (safe.whole leg among point timestamp)
  · rintro ⟨accepted, read⟩
    exact
      { accepted := fun leg among point timestamp => (accepted leg among point timestamp).1
        whole := fun leg among point timestamp =>
          (fits leg among point timestamp read).2 (accepted leg among point timestamp).2
        read }

theorem ReadToEnd.fits {leg : Leg ε} (read : ReadToEnd arguments transport leg)
    (sends : SendsHeld transport held) (keeps : arguments.excludeDeletions = false)
    (positive : 0 < leg.1.maxRecords) :
    ((held leg.1.dataspec).length : Int) ≤ leg.1.maxRecords := by
  have below := read.below positive
  rw [keeps, (sends _ _ read.answers).2 read.failure, sentOf, if_pos positive] at below
  simp only [keptRows, Bool.false_eq_true, if_false, List.length_take] at below
  omega

theorem Standing.all_received (sends : SendsHeld transport held)
    (distinct : (standing.legs.map (·.1.dataspec)).Nodup)
    (exhausted : standing.ended = some .exhausted)
    (specs : standing.legs.map (·.1.dataspec) = arguments.queriedSpecs)
    (read : ∀ leg ∈ standing.legs, ReadToEnd arguments transport leg) :
    (∀ spec ∈ arguments.queriedSpecs, standing.received arguments spec = held spec) ↔
      (arguments.excludeDeletions = true → ∀ leg ∈ standing.legs, 0 < leg.1.maxRecords →
        ((held leg.1.dataspec).length : Int) ≤ leg.1.maxRecords) := by
  have received (leg : Leg ε) (among : leg ∈ standing.legs) :
      standing.received arguments leg.1.dataspec = held leg.1.dataspec ↔
        (0 < leg.1.maxRecords → ((held leg.1.dataspec).length : Int) ≤ leg.1.maxRecords) := by
    have leg_read := read leg among
    rw [standing.received_leg distinct exhausted among,
      (sends _ _ leg_read.answers).2 leg_read.failure, sentOf_eq_held]
  rw [← specs]
  constructor
  · intro all _ leg among
    exact (received leg among).1 (all _ (List.mem_map_of_mem among))
  · intro fits spec queried
    obtain ⟨leg, among, rfl⟩ := List.mem_map.1 queried
    rw [received leg among]
    intro positive
    cases excludes : arguments.excludeDeletions with
    | true => exact fits excludes leg among positive
    | false => exact (read leg among).fits sends excludes positive

theorem Leaves.received {rows : QueryRows ε} (leaves : Leaves arguments standing count rows)
    (spec : String) : rows.received spec = standing.received arguments spec := by
  rw [QueryRows.received, leaves.streams, Standing.received, List.lookup_append,
    List.lookup_append]
  cases standing.doneResponses.lookup spec with
  | some response => rfl
  | none =>
      rw [Option.none_or, Option.none_or, List.lookup_cons, List.lookup_cons]
      cases spec == standing.request.dataspec <;> rfl

/-- What `completed` says has to be the case. -/
theorem Leaves.tellsTruth_iff {rows : QueryRows ε} (leaves : Leaves arguments standing count rows) :
    rows.TellsTruth arguments held ↔
      (standing.saysCompleted arguments count = true ↔
        arguments.maxRecords = (standing.yielded arguments.excludeDeletions).length ∨
          ∀ spec ∈ arguments.queriedSpecs, standing.received arguments spec = held spec) := by
  obtain ⟨metadata, has, streamed, -, completed⟩ := leaves.metadata
  rw [QueryRows.TellsTruth, has]
  simp only [Option.mem_def, Option.some.injEq, forall_eq', leaves.received, streamed, completed]
  refine ⟨And.left, fun truth => ⟨truth, fun completes => ?_⟩⟩
  rcases truth.1 completes with reached | all
  · exact .inl reached
  · refine .inr fun spec queried => ?_
    rw [all spec queried, List.drop_length]
    unfold keptRows
    split <;> rfl

/-- Where something is outstanding, not all has been received. -/
theorem Standing.outstanding_iff {completed : Bool} (incomplete : completed = false)
    (below : arguments.maxRecords ≠ (standing.yielded arguments.excludeDeletions).length) :
    (completed = true ↔
        arguments.maxRecords = (standing.yielded arguments.excludeDeletions).length ∨
          ∀ spec ∈ arguments.queriedSpecs, standing.received arguments spec = held spec) ↔
      ∃ spec ∈ arguments.queriedSpecs, standing.received arguments spec ≠ held spec := by
  simp [incomplete, below]

theorem limit_eq_some {most : Int} : arguments.limit = some most ↔
    0 ≤ most ∧ arguments.maxRecords = most := by
  unfold StoredArguments.limit
  split
  · constructor
    · intro limit
      cases limit
    · omega
  · rename_i nonnegative
    simp only [Option.some.injEq]
    omega

theorem Standing.tellsTruth_iff (sends : SendsHeld transport held)
    (stands : arguments.standing? transport count = some standing) :
    (standing.saysCompleted arguments count = true ↔
        arguments.maxRecords = (standing.yielded arguments.excludeDeletions).length ∨
          ∀ spec ∈ arguments.queriedSpecs, standing.received arguments spec = held spec) ↔
      standing.TellsTruth arguments held count := by
  have distinct := standing_distinct stands
  obtain ⟨pending, request, answer, rfl, answers, specs, asks⟩ := arguments.standing?_eq stands
  have against := standing_against arguments transport pending arguments.limit request answer
    count limit_nonnegative
  have legs := standing_exhausted_legs arguments transport pending arguments.limit request answer
    count answers asks
  have started : (standing arguments transport pending arguments.limit request answer
    count).ended ≠ none → 0 < count := standing_started
  generalize standing arguments transport pending arguments.limit request answer count = standing
    at *
  unfold Standing.TellsTruth
  by_cases reached :
      arguments.maxRecords = (standing.yielded arguments.excludeDeletions).length
  · have limit : arguments.limit = some _ := limit_eq_some.2 ⟨by omega, reached⟩
    have tells : standing.saysCompleted arguments count = decide (0 < count) := by
      rw [limit] at against
      unfold Standing.saysCompleted
      rw [limit]
      cases ended : standing.ended with
      | none => simp
      | some stop =>
          rw [ended] at against
          cases stop with
          | limit => simp [Stop.completes]
          | exhausted => exact absurd (against _ rfl) (by omega)
          | failed exception => exact absurd (against _ rfl) (by omega)
          | refused request exception => exact absurd (against _ rfl) (by omega)
    rw [if_pos reached, tells]
    simp [reached]
  · rw [if_neg reached]
    cases ended : standing.ended with
    | none =>
        rw [ended] at against
        have incomplete : standing.saysCompleted arguments count = false := by
          unfold Standing.saysCompleted
          rw [ended]
          cases limit : arguments.limit with
          | none => simp
          | some most =>
              have above := against most limit
              have same := (limit_eq_some.1 limit).2
              have under : ¬ most ≤ (standing.yielded arguments.excludeDeletions).length := by
                omega
              simp [under]
        exact Standing.outstanding_iff incomplete reached
    | some stop =>
        rw [ended] at against
        cases stop with
        | limit =>
            exact absurd (limit_eq_some.1 against).2 reached
        | exhausted =>
            obtain ⟨asked, read⟩ := legs ended
            have begun := started (by rw [ended]; simp)
            have all := Standing.all_received sends distinct ended (asked.trans specs) read
            simp only [Standing.saysCompleted, ended, begun, Stop.completes, reached, all]
            simp
        | failed exception =>
            exact Standing.outstanding_iff (by simp [Standing.saysCompleted, ended, Stop.completes])
              reached
        | refused request exception =>
            exact Standing.outstanding_iff (by simp [Standing.saysCompleted, ended, Stop.completes])
              reached

theorem QueryRows.TellsTruth.of_remains (arguments : StoredArguments)
    (held : String → List Json) {rows other : QueryRows ε}
    (same : rows.remains = other.remains) :
    rows.TellsTruth arguments held ↔ other.TellsTruth arguments held := by
  have streams : rows.streams = other.streams := congrArg (·.1) same
  have metadata : rows.metadata? = other.metadata? := congrArg (·.2.2) same
  unfold QueryRows.TellsTruth QueryRows.received
  rw [streams, metadata]

theorem Opens.tellsTruth {rows : QueryRows ε} (sends : SendsHeld transport held)
    (opens : Opens arguments transport rows) (count : Nat) :
    (QueryRows.iterator.stopAfter count rows).TellsTruth arguments held ↔
      ∀ standing ∈ arguments.standing? transport count,
        standing.TellsTruth arguments held count := by
  rcases opens.standing? count with
    ⟨nowhere, metadata, rfl, ineffective, -, -, completed⟩ | ⟨standing, stands, leaves, -⟩
  · rw [nowhere, nothing_stopAfter]
    refine ⟨fun _ standing among => (nomatch among), fun _ other same => ?_⟩
    obtain rfl : metadata = other := by simpa [QueryRows.metadata?] using same
    have nothing : arguments.queriedSpecs = [] := by
      cases opens with
      | nothing fans => simp [StoredArguments.queriedSpecs, fans, ineffective]
    simp [completed, nothing]
  · rw [leaves.tellsTruth_iff, Standing.tellsTruth_iff sends stands, stands]
    simp

end Truth

/-- A stopped query tells the truth about its completion exactly when, below the limit, an
end has come that no limit of a request has caused, or something is outstanding. -/
theorem completed_truthful_iff (python : PythonStr) (includeRaw : Bool)
    (decodeEnvelope : RecordEnvelope → Except ε β) {arguments : StoredArguments}
    {transport : Transport ε} {held : String → List Json} {rows : QueryRows ε}
    (sends : SendsHeld transport held)
    (opened : queryStoredRaw arguments transport = .ok rows) (count : Nat) :
    (((rawRecords python includeRaw).stopAfter count (.created, rows)).2.TellsTruth arguments held ↔
        ∀ standing ∈ arguments.standing? transport count,
          standing.TellsTruth arguments held count) ∧
      (((domainRecords python includeRaw decodeEnvelope).stopAfter count
          (.created, (.created, rows))).2.2.TellsTruth arguments held ↔
        ∀ standing ∈ arguments.standing? transport
            (arguments.typedCalls transport python includeRaw decodeEnvelope count),
          standing.TellsTruth arguments held
            (arguments.typedCalls transport python includeRaw decodeEnvelope count)) := by
  have opens := queryStoredRaw_opens opened
  have raw := QueryRows.TellsTruth.of_remains arguments held
    (opens.raw_remains python includeRaw count)
  have domain := QueryRows.TellsTruth.of_remains arguments held
    (opens.domain_remains python includeRaw decodeEnvelope count)
  exact ⟨raw.trans (opens.tellsTruth sends count), domain.trans (opens.tellsTruth sends _)⟩

section Inputs

def aDeletion : Json :=
  Json.record [("type", Json.text "RA"), ("data", Json.record [("data_code", Json.text "0")])]

/-- A deletion and a race. -/
def heldRaces : String → List Json := fun _ => [aDeletion, aRace]

/-- A server that holds these, and does not fail. -/
def racesServer : Transport Unit := fun request =>
  .ok { metadata := .object [], rows := sentOf heldRaces request }

def oneRaceWithoutDeletions : StoredArguments := { racesWithoutDeletions with maxRecords := 1 }

theorem racesServer_sends : SendsHeld racesServer heldRaces := by
  intro request answer answers
  cases answers
  exact ⟨List.prefix_refl _, fun _ => rfl⟩

end Inputs

theorem completed_truthful_iff_all :
    ∃ rows, queryStoredRaw racesWithoutDeletions racesServer = .ok rows ∧
      (((rawRecords plainText false).stopAfter 2 (.created, rows)).2.TellsTruth
          racesWithoutDeletions heldRaces ↔
        ∀ standing ∈ racesWithoutDeletions.standing? racesServer 2,
          standing.TellsTruth racesWithoutDeletions heldRaces 2) :=
  ⟨_, rfl, (completed_truthful_iff plainText false
    (fun envelope => (.ok envelope : Except Unit RecordEnvelope)) racesServer_sends rfl 2).1⟩

/-- The server's one record is a deletion: none comes out, one is left, and `completed` is
set. -/
theorem completed_without_the_race :
    ¬ ∀ (arguments : StoredArguments) (transport : Transport Unit) (held : String → List Json)
        (rows : QueryRows Unit) (count : Nat), SendsHeld transport held →
      queryStoredRaw arguments transport = .ok rows →
      ((rawRecords plainText false).stopAfter count (.created, rows)).2.TellsTruth arguments
        held := by
  intro truthful
  have truth := truthful oneRaceWithoutDeletions racesServer heldRaces _ 1 racesServer_sends rfl _ rfl
  rcases truth.1.1 (by decide +kernel) with reached | all
  · revert reached
    decide +kernel
  · have lengths := congrArg List.length (all "RACE" (by decide +kernel))
    revert lengths
    decide +kernel

end JVLinkServer.Client
