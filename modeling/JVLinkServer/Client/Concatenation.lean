import JVLinkServer.Client.ClosedResponses

namespace JVLinkServer.Client

open AsyncGenerators

/-! # What a query over several dataspecs yields -/

variable {ε : Type}

/-- The rows that a limit lets through. -/
def upTo (limit : Option Int) (rows : List Json) : List Json :=
  match limit with
  | some count => rows.take count.toNat
  | none => rows

section UpTo

variable {limit : Option Int} {rows : List Json}

theorem length_upTo : (upTo limit rows).length = share limit rows := by
  cases limit with
  | none => rfl
  | some count => exact List.length_take

theorem upTo_of_hit (hit : limitHit limit rows = true) (more : List Json) :
    upTo limit (rows ++ more) = upTo limit rows := by
  cases limit with
  | none => simp [limitHit] at hit
  | some count =>
      have most : count.toNat ≤ rows.length := by simpa [limitHit] using hit
      rw [upTo, upTo, List.take_append_of_le_length most]

theorem upTo_of_room (room : limitHit limit rows = false) (more : List Json) :
    upTo limit (rows ++ more) = rows ++ upTo (limit.map (· - (rows.length : Int))) more := by
  cases limit with
  | none => rfl
  | some count =>
      have most : ¬ count.toNat ≤ rows.length := by simpa [limitHit] using room
      have left : (count - (rows.length : Int)).toNat = count.toNat - rows.length := by omega
      rw [upTo, Option.map_some, upTo, List.take_append, left,
        List.take_of_length_le (by omega)]

/-- Rows that agree up to a limit both reach it, or are the same. -/
theorem limitHit_upTo {other : List Json} (agree : upTo limit rows = upTo limit other) :
    limitHit limit rows = limitHit limit other := by
  cases limit with
  | none => rfl
  | some count =>
      have lengths := congrArg List.length agree
      simp only [upTo, List.length_take] at lengths
      simp only [limitHit, decide_eq_decide]
      omega

theorem upTo_eq_of_room {other : List Json} (agree : upTo limit rows = upTo limit other)
    (room : limitHit limit rows = false) : rows = other := by
  have roomOther := limitHit_upTo agree ▸ room
  have whole := upTo_of_room room []
  have wholeOther := upTo_of_room roomOther []
  have nothing (length : Nat) : upTo (limit.map (· - (length : Int))) [] = [] := by
    cases limit <;> simp [upTo]
  rw [List.append_nil, nothing, List.append_nil] at whole wholeOther
  rw [← whole, agree, wholeOther]

theorem take_share : rows.take (share limit rows) = upTo limit rows := by
  cases limit with
  | none => exact List.take_length
  | some count =>
      rw [share, upTo]
      cases Nat.le_total count.toNat rows.length with
      | inl below => rw [Nat.min_eq_left below]
      | inr above => rw [Nat.min_eq_right above, List.take_length, List.take_of_length_le above]

/-- Within its share the limit does not matter. -/
theorem take_upTo {count : Nat} (within : count ≤ share limit rows) (more : List Json) :
    (upTo limit (rows ++ more)).take count = rows.take count := by
  have length := Nat.le_trans within (share_le_length limit)
  cases limit with
  | none => exact List.take_append_of_le_length length
  | some most =>
      have below : count ≤ most.toNat := Nat.le_trans within (Nat.min_le_left _ _)
      rw [upTo, List.take_take, Nat.min_eq_left below, List.take_append_of_le_length length]

theorem left_of_room (room : limitHit limit rows = false) :
    ∀ count ∈ limit.map (· - (rows.length : Int)), 0 < count := by
  cases limit with
  | none => simp
  | some most =>
      have more : ¬ most.toNat ≤ rows.length := by simpa [limitHit] using room
      simp only [Option.map_some, Option.mem_def, Option.some.injEq, forall_eq']
      omega

end UpTo

/-- The limit that a request asks for. -/
def StoredRequest.asked (request : StoredRequest) : Option Int :=
  if request.maxRecords < 0 then none else some request.maxRecords

/-- The transport has a stream of rows for each dataspec.  What it sends agrees with the
stream as far as the request goes, and may be longer. -/
def Serves (arguments : StoredArguments) (transport : Transport ε)
    (streams : String → List Json) : Prop :=
  ∀ request, ∃ answer, transport request = .ok answer ∧ answer.failure = none ∧
    upTo request.asked (keptRows arguments.excludeDeletions answer.rows) =
      upTo request.asked (streams request.dataspec)

section Standing

variable {arguments : StoredArguments} {transport : Transport ε} {streams : String → List Json}

theorem asked_request {remaining : Option Int} (nonnegative : ∀ count ∈ remaining, 0 ≤ count)
    (spec : String) : (arguments.request spec remaining).asked = remaining := by
  unfold StoredRequest.asked StoredArguments.request
  cases remaining with
  | none => simp
  | some count => simp [Int.not_lt.2 (nonnegative count rfl)]

theorem limit_nonnegative : ∀ count ∈ arguments.limit, 0 ≤ count := by
  unfold StoredArguments.limit
  split
  · simp
  · rename_i nonnegative
    simpa using nonnegative

theorem yielded_behind {excludeDeletions : Bool} (leg : Leg ε) (standing : Standing ε) :
    (standing.behind [leg]).yielded excludeDeletions =
      keptRows excludeDeletions leg.2.rows ++ standing.yielded excludeDeletions := by
  simp [Standing.behind, Standing.yielded]

/-- From the beginning of a leg, what comes out is a part of what is to come. -/
theorem standing_yielded (serves : Serves arguments transport streams) :
    ∀ (pending : List String) (remaining : Option Int) (spec : String) (answer : Answer ε)
      (count : Nat), (∀ count ∈ remaining, 0 ≤ count) → answer.failure = none →
      upTo remaining (keptRows arguments.excludeDeletions answer.rows) =
        upTo remaining (streams spec) →
      (standing arguments transport pending remaining (arguments.request spec remaining) answer
          count).yielded arguments.excludeDeletions =
        (upTo remaining (streams spec ++ pending.flatMap streams)).take count
  | pending, remaining, spec, answer, count, nonnegative, failure, agree => by
      have hits := limitHit_upTo agree
      have shares : share remaining (keptRows arguments.excludeDeletions answer.rows) =
          share remaining (streams spec) := by
        rw [← length_upTo, agree, length_upTo]
      rw [standing.eq_def]
      dsimp only
      by_cases most : count ≤ share remaining (keptRows arguments.excludeDeletions answer.rows)
      · have own := take_upTo most []
        have other := take_upTo (shares ▸ most) []
        rw [List.append_nil] at own other
        rw [if_pos most, take_upTo (shares ▸ most)]
        simp only [Standing.yielded, List.flatMap_nil, List.nil_append]
        rw [← own, agree, other]
      · rw [if_neg most]
        cases hit : limitHit remaining (keptRows arguments.excludeDeletions answer.rows) with
        | true =>
            have most' : share remaining (streams spec) ≤ count := by omega
            rw [if_pos rfl, upTo_of_hit (hits ▸ hit), List.take_of_length_le (length_upTo ▸ most')]
            simp only [Standing.yielded, List.flatMap_nil, List.nil_append]
            rw [take_share, agree]
        | false =>
            have same := upTo_eq_of_room agree hit
            rw [share_of_room hit] at most
            rw [if_neg (by simp), failure, ← same, upTo_of_room hit]
            cases pending with
            | nil =>
                have nothing (limit : Option Int) : upTo limit [] = [] := by
                  cases limit <;> simp [upTo]
                dsimp only
                rw [List.flatMap_nil, nothing, List.append_nil,
                  List.take_of_length_le (Nat.le_of_not_le most)]
                simp [Standing.yielded]
            | cons next rest =>
                have left : ∀ count ∈ remaining.map
                    (· - ((keptRows arguments.excludeDeletions answer.rows).length : Int)),
                      0 ≤ count := fun count counts =>
                  Int.le_of_lt (left_of_room hit count counts)
                obtain ⟨answered, answers, fails, serving⟩ := serves (arguments.request next
                  (remaining.map
                    (· - ((keptRows arguments.excludeDeletions answer.rows).length : Int))))
                rw [asked_request left] at serving
                simp only [answers]
                rw [yielded_behind, standing_yielded serves rest _ next answered _ left fails serving,
                  List.take_append, List.take_of_length_le (Nat.le_of_not_le most)]
                rfl

/-- No exception comes of answers without failures. -/
theorem standing_unraised (serves : Serves arguments transport streams) :
    ∀ (pending : List String) (remaining : Option Int) (request : StoredRequest)
      (answer : Answer ε) (count : Nat), answer.failure = none →
      (standing arguments transport pending remaining request answer count).exception? = none
  | pending, remaining, request, answer, count, failure => by
      by_cases within : count ≤ share remaining (keptRows arguments.excludeDeletions answer.rows)
      · rw [standing_within within]
        rfl
      have past := Nat.lt_of_not_le within
      cases hit : limitHit remaining (keptRows arguments.excludeDeletions answer.rows) with
      | true =>
          rw [standing_hit past hit]
          rfl
      | false =>
          cases pending with
          | nil =>
              rw [standing_exhausted past hit failure]
              rfl
          | cons spec rest =>
              obtain ⟨answered, answers, fails, -⟩ := serves (arguments.request spec (remaining.map
                (· - ((keptRows arguments.excludeDeletions answer.rows).length : Int))))
              rw [standing_next past hit failure rfl answers]
              exact standing_unraised serves rest _ _ answered _ fails

theorem requests_behind (leg : Leg ε) (standing : Standing ε) :
    (standing.behind [leg]).requests = leg.1 :: standing.requests := by
  simp [Standing.behind, Standing.requests, Standing.legs]

/-- The dataspecs are asked for one after the other. -/
theorem standing_order (arguments : StoredArguments) (transport : Transport ε) :
    ∀ (pending : List String) (remaining : Option Int)
    (request : StoredRequest) (answer : Answer ε) (count : Nat),
    ((standing arguments transport pending remaining request answer count).requests.map
      (·.dataspec)) <+: request.dataspec :: pending
  | pending, remaining, request, answer, count => by
      rw [standing.eq_def]
      dsimp only
      split
      · exact ⟨pending, rfl⟩
      · split
        · exact ⟨pending, rfl⟩
        · cases answer.failure with
          | some exception => exact ⟨pending, rfl⟩
          | none =>
              cases pending with
              | nil => exact ⟨[], rfl⟩
              | cons next rest =>
                  dsimp only
                  split
                  · exact ⟨rest, rfl⟩
                  · rename_i answered _
                    rw [requests_behind, List.map_cons]
                    exact (List.prefix_cons_inj request.dataspec).2
                      (standing_order arguments transport rest _ (arguments.request next _) answered _)

/-- A request of a call: for what the limit leaves after these rows. -/
def Asks (arguments : StoredArguments) (remaining : Option Int) (yielded : Nat)
    (request : StoredRequest) : Prop :=
  (∃ spec, request = arguments.request spec (remaining.map (· - (yielded : Int)))) ∧
    ∀ limit ∈ remaining, yielded < limit

theorem Asks.shift {remaining : Option Int} {first yielded : Nat} {request : StoredRequest}
    (asks : Asks arguments (remaining.map (· - (first : Int))) yielded request) :
    Asks arguments remaining (first + yielded) request := by
  obtain ⟨⟨spec, made⟩, below⟩ := asks
  refine ⟨⟨spec, ?_⟩, fun limit limits => ?_⟩
  · rw [made, Option.map_map]
    congr 2
    funext limit
    simp only [Function.comp_apply]
    omega
  · have left := below _ (Option.mem_map_of_mem _ limits)
    omega

/-- The requests of a call are for what the limit leaves after the rows before it. -/
theorem standing_asks (arguments : StoredArguments) (transport : Transport ε) :
    ∀ (pending : List String) (remaining : Option Int)
    (request : StoredRequest) (answer : Answer ε) (count : Nat),
    ∃ asked,
      (standing arguments transport pending remaining request answer (count + 1)).requests =
        (standing arguments transport pending remaining request answer count).requests ++ asked ∧
      ∀ next ∈ asked, Asks arguments remaining
        ((standing arguments transport pending remaining request answer count).yielded
          arguments.excludeDeletions).length next
  | pending, remaining, request, answer, count => by
      by_cases more : count + 1 ≤ share remaining (keptRows arguments.excludeDeletions answer.rows)
      · rw [standing_within more, standing_within (Nat.le_of_succ_le more)]
        exact ⟨[], rfl, by simp⟩
      have past := Nat.lt_of_not_le more
      cases hit : limitHit remaining (keptRows arguments.excludeDeletions answer.rows) with
      | true =>
          rw [standing_hit past hit]
          by_cases last : count ≤ share remaining (keptRows arguments.excludeDeletions answer.rows)
          · rw [standing_within last]
            exact ⟨[], rfl, by simp⟩
          · rw [standing_hit (Nat.lt_of_not_le last) hit]
            exact ⟨[], rfl, by simp⟩
      | false =>
          have whole := share_of_room hit
          -- the call goes past the last row of the leg, or an earlier one has done so
          have before : count = (keptRows arguments.excludeDeletions answer.rows).length ∧
              standing arguments transport pending remaining request answer count =
                { request, answer, taken := count } ∨
              share remaining (keptRows arguments.excludeDeletions answer.rows) < count := by
            by_cases last : count ≤
                share remaining (keptRows arguments.excludeDeletions answer.rows)
            · exact .inl ⟨by omega, standing_within last⟩
            · exact .inr (Nat.lt_of_not_le last)
          cases failure : answer.failure with
          | some exception =>
              rw [standing_failed past hit failure]
              rcases before with ⟨-, standing⟩ | earlier
              · rw [standing]
                exact ⟨[], rfl, by simp⟩
              · rw [standing_failed earlier hit failure]
                exact ⟨[], rfl, by simp⟩
          | none =>
              cases pending with
              | nil =>
                  rw [standing_exhausted past hit failure]
                  rcases before with ⟨-, standing⟩ | earlier
                  · rw [standing]
                    exact ⟨[], rfl, by simp⟩
                  · rw [standing_exhausted earlier hit failure]
                    exact ⟨[], rfl, by simp⟩
              | cons spec rest =>
                  obtain ⟨next, made⟩ : ∃ next, next = arguments.request spec (remaining.map
                    (· - ((keptRows arguments.excludeDeletions answer.rows).length : Int))) :=
                      ⟨_, rfl⟩
                  have asks : Asks arguments remaining
                      (keptRows arguments.excludeDeletions answer.rows).length next := by
                    refine ⟨⟨spec, made⟩, fun limit limits => ?_⟩
                    have left := left_of_room hit _ (Option.mem_map_of_mem _ limits)
                    omega
                  cases answers : transport next with
                  | error exception =>
                      rw [standing_refused past hit failure made answers]
                      rcases before with ⟨all, standing⟩ | earlier
                      · rw [standing, all]
                        refine ⟨[next], rfl, ?_⟩
                        simpa [Standing.yielded] using asks
                      · rw [standing_refused earlier hit failure made answers]
                        exact ⟨[], by simp, by simp⟩
                  | ok answered =>
                      rw [standing_next past hit failure made answers, requests_behind]
                      obtain ⟨asked, requests, each⟩ := standing_asks arguments transport rest
                        (remaining.map
                          (· - ((keptRows arguments.excludeDeletions answer.rows).length : Int)))
                        next answered
                        (count - (keptRows arguments.excludeDeletions answer.rows).length)
                      rcases before with ⟨all, standing⟩ | earlier
                      · rw [standing]
                        rw [all, Nat.sub_self, standing_zero] at requests each
                        rw [all, Nat.add_sub_cancel_left, requests]
                        refine ⟨next :: asked, by simp [Standing.requests, Standing.legs], ?_⟩
                        have shifted (later : StoredRequest) (among : later ∈ asked) :=
                          (each later among).shift
                        simpa [Standing.yielded, asks] using shifted
                      · have counted : count + 1 -
                            (keptRows arguments.excludeDeletions answer.rows).length =
                              count - (keptRows arguments.excludeDeletions answer.rows).length + 1 := by
                          omega
                        rw [standing_next earlier hit failure made answers, requests_behind,
                          yielded_behind, List.length_append, counted, requests]
                        exact ⟨asked, rfl, fun later among => (each later among).shift⟩

end Standing

/-- What the calls of a query over several dataspecs give and ask for, if these rows are to
come. -/
structure Concatenates (python : PythonStr) (includeRaw : Bool) (arguments : StoredArguments)
    (whole : List Json) (rows : QueryRows ε) : Prop where
  values : ∀ count, (rawRecords python includeRaw).values count (.created, rows) =
    (whole.take count).map (toEnvelope python includeRaw)
  raised : ∀ count, (rawRecords python includeRaw).raised count (.created, rows) = none
  streamed : ∀ count, ∃ metadata,
    ((rawRecords python includeRaw).pull count (.created, rows)).2.metadata? = some metadata ∧
      metadata.streamedRecords = (whole.take count).length
  opening : rows.requests =
    (arguments.effectiveSpecs.take 1).map fun spec => arguments.request spec arguments.limit
  order : ∀ count,
    ((rawRecords python includeRaw).pull count (.created, rows)).2.requests.map (·.dataspec) <+:
      arguments.effectiveSpecs
  asks : ∀ count, ∃ asked,
    ((rawRecords python includeRaw).pull (count + 1) (.created, rows)).2.requests =
        ((rawRecords python includeRaw).pull count (.created, rows)).2.requests ++ asked ∧
      ∀ request ∈ asked, Asks arguments arguments.limit (whole.take count).length request

theorem fanout_concatenates (python : PythonStr) (includeRaw : Bool) {arguments : StoredArguments}
    {transport : Transport ε} {streams : String → List Json} {rows : QueryRows ε}
    (serves : Serves arguments transport streams)
    (opened : queryStoredRawFanout arguments transport = .ok rows) :
    Concatenates python includeRaw arguments
      (upTo arguments.limit (arguments.effectiveSpecs.flatMap streams)) rows := by
  have live : Frame.created ≠ .finished := by simp
  have runs (count : Nat) : (rawRecords python includeRaw).values count (.created, rows) = _ ∧
      (rawRecords python includeRaw).raised count (.created, rows) = _ ∧
      ((rawRecords python includeRaw).pull count (.created, rows)).2 = _ :=
    forwarding_runs QueryRows.iterator_settles (fun _ => rfl) live count
  rcases queryStoredRawFanout_stands opened with
    ⟨ineffective, rfl⟩ | ⟨first, pending, answer, combined, specs, answers, rfl, next, stands⟩
  · have ended : QueryRows.iterator.anext (.none { arguments.fanoutMeta with completed := true } :
        QueryRows ε) = (.ends, .none { arguments.fanoutMeta with completed := true }) := rfl
    have nothing : upTo arguments.limit (arguments.effectiveSpecs.flatMap streams) = [] := by
      rw [ineffective]
      cases arguments.limit <;> simp [upTo]
    simp only [AsyncIterator.values_ended ended, AsyncIterator.raised_ended ended,
      AsyncIterator.pull_ended ended] at runs
    rw [nothing]
    exact
      { values := fun count => by simp [(runs count).1]
        raised := fun count => (runs count).2.1
        streamed := fun count => by
          rw [(runs count).2.2]
          exact ⟨_, rfl, by simpa using arguments.fanoutMeta_facts.2.1⟩
        opening := by rw [ineffective]; rfl
        order := fun count => by
          rw [(runs count).2.2]
          exact List.nil_prefix
        asks := fun count => by
          rw [(runs (count + 1)).2.2, (runs count).2.2]
          exact ⟨[], rfl, by simp⟩ }
  · have ran (count : Nat) := stands.run transport pending next count
    obtain ⟨sent, answers', failure, agree⟩ := serves (arguments.request first arguments.limit)
    obtain rfl : answer = sent := by simpa [answers] using answers'
    rw [asked_request limit_nonnegative] at agree
    have yields (count : Nat) := standing_yielded serves pending arguments.limit first answer count
      limit_nonnegative failure agree
    have whole : arguments.effectiveSpecs.flatMap streams =
        streams first ++ pending.flatMap streams := by rw [specs]; rfl
    rw [← whole] at yields
    have pull (count : Nat) : QueryRows.iterator.pull count
        (.fanout arguments transport (.created, combined)) = _ :=
      AsyncIterator.pull_embed (QueryRows.fanout arguments transport) (fun _ => rfl) count _
    have raised (count : Nat) : QueryRows.iterator.raised count
        (.fanout arguments transport (.created, combined)) = _ :=
      AsyncIterator.raised_embed (QueryRows.fanout arguments transport) (fun _ => rfl) count _
    simp only [leftAfter_nil, Standing.behind_nil] at ran
    simp only [fanout_values, raised, pull] at runs
    exact
      { values := fun count => by
          rw [(runs count).1, ← yields count, (ran count).yielded]
          rfl
        raised := fun count => by
          rw [(runs count).2.1, (ran count).raised]
          exact standing_unraised serves pending arguments.limit _ answer count failure
        streamed := fun count => by
          rw [(runs count).2.2]
          exact ⟨_, rfl, by rw [(ran count).stands.tally.streamed, yields]⟩
        opening := by
          rw [specs]
          exact stands.requests
        order := fun count => by
          rw [(runs count).2.2, specs]
          have order := standing_order arguments transport pending arguments.limit
            (arguments.request first arguments.limit) answer count
          rw [← (ran count).stands.requests] at order
          exact order
        asks := fun count => by
          rw [(runs (count + 1)).2.2, (runs count).2.2]
          obtain ⟨asked, requests, each⟩ := standing_asks arguments transport pending
            arguments.limit (arguments.request first arguments.limit) answer count
          rw [yields] at each
          rw [← (ran (count + 1)).stands.requests, ← (ran count).stands.requests] at requests
          exact ⟨asked, requests, each⟩ }

section Inputs

/-- Two dataspecs for three rows. -/
theorem racesAndDifferences_distinct : ["RACE", "DIFF"].Nodup := by decide

def racesAndDifferences : StoredArguments where
  input :=
    { dataspec := "RACEDIFF", dataspecs := ["RACE", "DIFF"], fromDatetime := "20240101000000"
      distinct := racesAndDifferences_distinct }
  option := 1
  maxRecords := 3

end Inputs

theorem fanout_concatenates_three :
    ∃ rows, queryStoredRawFanout racesAndDifferences twoRaces = .ok rows ∧
      Concatenates plainText false racesAndDifferences
        (upTo racesAndDifferences.limit
          (racesAndDifferences.effectiveSpecs.flatMap fun _ => [aRace, aRace])) rows := by
  have serves : Serves racesAndDifferences twoRaces fun _ => [aRace, aRace] :=
    fun _ => ⟨_, rfl, rfl, rfl⟩
  exact ⟨_, rfl, fanout_concatenates plainText false serves rfl⟩

end JVLinkServer.Client
