import JVLinkServer.Client.Concatenation
import JVLinkServer.Client.DatetimeArguments

namespace JVLinkServer.Client

open AsyncGenerators

/-! # Points to resume from -/

variable {ε β : Type}

/-- A later query accepts the point as its `from_datetime`. -/
def acceptsPoint (point : Bytes) : Bool :=
  match normalizeDatetimeArg "from_datetime" (characters point) false with
  | .ok _ => true
  | .error _ => false

/-- The records that the server sends of those it holds. -/
def sentOf (held : String → List Json) (request : StoredRequest) : List Json :=
  if 0 < request.maxRecords then (held request.dataspec).take request.maxRecords.toNat
  else held request.dataspec

/-- A server that holds records for each dataspec.  It may refuse a request, and fail at
any point of a response. -/
def SendsHeld (transport : Transport ε) (held : String → List Json) : Prop :=
  ∀ request answer, transport request = .ok answer →
    answer.rows <+: sentOf held request ∧
      (answer.failure = none → answer.rows = sentOf held request)

/-- All that the server holds was received, be it delivered or left out as a deletion, and the
response did not fail. -/
def Response.Consumed (held : List Json) (response : Response ε) : Prop :=
  response.rows = [] ∧ response.failure = none ∧ response.sent = held

/-- A query from any of the points that are given skips nothing of what the server holds
that was not received. -/
def QueryRows.ResumesSafely (held : String → List Json) (rows : QueryRows ε) : Prop :=
  ∀ metadata ∈ rows.metadata?, ∀ spec point,
    metadata.resumeFromDatetimeByDataspec.lookup spec = some (some point) →
      acceptsPoint point = true ∧
        ∃ stream ∈ rows.streams, stream.1 = spec ∧ stream.2.Consumed (held spec)

/-- The rows of the last response that were not read. -/
def Standing.unread (excludeDeletions : Bool) (standing : Standing ε) : List Json :=
  match standing.ended with
  | none | some .limit => unreadAfter excludeDeletions standing.taken standing.answer.rows
  | some _ => []

/-- The metadata of each dataspec that was read gives a point only if a query accepts it and
the server has sent all that it holds, and that of the last one only if nothing of its
response is left. -/
structure Standing.ResumesSafely (excludeDeletions : Bool) (held : String → List Json)
    (standing : Standing ε) : Prop where
  accepted : ∀ leg ∈ standing.legs, ∀ point ∈ StoredQueryMeta.lastTimestamp? leg.2.metadata,
    acceptsPoint point = true
  whole : ∀ leg ∈ standing.legs, ∀ point ∈ StoredQueryMeta.lastTimestamp? leg.2.metadata,
    leg.2.rows = held leg.1.dataspec
  read : ∀ point ∈ StoredQueryMeta.lastTimestamp? standing.answer.metadata,
    standing.unread excludeDeletions = [] ∧ standing.answer.failure = none

theorem Standing.response_consumed {excludeDeletions : Bool} {standing : Standing ε}
    {held : List Json} :
    (standing.response excludeDeletions).Consumed held ↔
      (standing.unread excludeDeletions = [] ∧ standing.answer.failure = none) ∧
        standing.answer.rows = held := by
  unfold Response.Consumed Standing.response Standing.unread
  cases standing.ended with
  | none => exact and_assoc.symm
  | some stop => cases stop <;> exact and_assoc.symm

section Lookup

variable {γ : Type}

/-- Assignments to different keys. -/
theorem lookup_assignments (pairs : List (String × γ)) (distinct : (pairs.map (·.1)).Nodup)
    (entries : List (String × γ)) (key : String) :
    (pairs.foldl (fun entries pair => assign pair.1 pair.2 entries) entries).lookup key =
      (pairs.lookup key).or (entries.lookup key) := by
  induction pairs generalizing entries with
  | nil => simp
  | cons pair pairs ih =>
      rw [List.map_cons, List.nodup_cons] at distinct
      rw [List.foldl_cons, ih distinct.2, List.lookup_cons]
      by_cases same : key = pair.1
      · subst same
        rw [lookup_eq_none distinct.1, lookup_assign]
        simp
      · have apart : (key == pair.1) = false := by simpa using same
        rw [lookup_assign_other same, apart]

/-- The one pair of a key. -/
theorem exists_of_key {pairs : List (String × γ)} (distinct : (pairs.map (·.1)).Nodup)
    {pair : String × γ} (among : pair ∈ pairs) {holds : γ → Prop} :
    (∃ other ∈ pairs, other.1 = pair.1 ∧ holds other.2) ↔ holds pair.2 := by
  constructor
  · rintro ⟨other, member, same, found⟩
    rwa [← List.inj_on_of_nodup_map distinct member among same]
  · exact fun found => ⟨pair, among, rfl, found⟩

end Lookup

section Points

variable {arguments : StoredArguments} {transport : Transport ε} {rows : QueryRows ε}
  {held : String → List Json}

theorem noPoints_lookup {spec : String} {point : Bytes} :
    arguments.noPoints.lookup spec ≠ some (some point) := by
  unfold StoredArguments.noPoints
  induction arguments.input.dataspecs with
  | nil => simp
  | cons first rest ih =>
      rw [List.map_cons, List.lookup_cons]
      cases spec == first with
      | true => simp
      | false => exact ih

/-- The points that the legs give. -/
theorem resumePoints_lookup {standing : Standing ε}
    (distinct : (standing.legs.map (·.1.dataspec)).Nodup) {spec : String} {point : Bytes} :
    (standing.resumePoints arguments.noPoints).lookup spec = some (some point) ↔
      ∃ leg ∈ standing.legs, leg.1.dataspec = spec ∧
        StoredQueryMeta.lastTimestamp? leg.2.metadata = some point := by
  let entry (leg : Leg ε) := (leg.1.dataspec, StoredQueryMeta.lastTimestamp? leg.2.metadata)
  have keys : ((standing.legs.map entry).map (·.1)).Nodup := by
    rw [List.map_map]
    exact distinct
  have points : standing.resumePoints arguments.noPoints = (standing.legs.map entry).foldl
      (fun entries pair => assign pair.1 pair.2 entries) arguments.noPoints := by
    rw [List.foldl_map]
    rfl
  rw [points, lookup_assignments _ keys]
  have given : ((standing.legs.map entry).lookup spec).or (arguments.noPoints.lookup spec) =
      some (some point) ↔ (standing.legs.map entry).lookup spec = some (some point) := by
    cases (standing.legs.map entry).lookup spec with
    | none => simp [noPoints_lookup]
    | some point => simp
  rw [given, lookup_eq_some keys]
  simp [entry]

/-- The dataspecs of a query are different. -/
theorem standing_distinct {count : Nat} {standing : Standing ε}
    (stands : arguments.standing? transport count = some standing) :
    (standing.legs.map (·.1.dataspec)).Nodup := by
  obtain ⟨pending, request, answer, rfl, -, specs, -⟩ := arguments.standing?_eq stands
  have order := standing_order arguments transport pending arguments.limit request answer count
  have requests := order.sublist.nodup (specs ▸ arguments.queriedSpecs_nodup)
  simp only [Standing.requests, List.map_append, List.map_map, List.nodup_append] at requests
  exact requests.1

/-- The stream of each leg, and what it takes to have been consumed. -/
theorem Leaves.consumed_iff {standing : Standing ε} {count : Nat}
    (distinct : (standing.legs.map (·.1.dataspec)).Nodup)
    (leaves : Leaves arguments standing count rows) {leg : Leg ε} (among : leg ∈ standing.legs) :
    (∃ stream ∈ rows.streams, stream.1 = leg.1.dataspec ∧
        stream.2.Consumed (held leg.1.dataspec)) ↔
      leg.2.rows = held leg.1.dataspec ∧
        (leg.1.dataspec = standing.request.dataspec →
          standing.unread arguments.excludeDeletions = [] ∧ standing.answer.failure = none) := by
  have keys : (rows.streams.map (·.1)).Nodup := by
    simpa [leaves.streams, Standing.doneResponses, Standing.legs, Function.comp_def] using distinct
  rcases List.mem_append.1 among with done | last
  · have stream : (leg.1.dataspec, (⟨leg.2.rows, [], none, true⟩ : Response ε)) ∈ rows.streams := by
      rw [leaves.streams]
      exact List.mem_append_left _ (List.mem_map_of_mem done)
    have apart : leg.1.dataspec ≠ standing.request.dataspec := by
      simp only [Standing.legs, List.map_append, List.nodup_append] at distinct
      exact distinct.2.2 _ (List.mem_map_of_mem done) _ (by simp)
    rw [exists_of_key keys stream]
    simp [Response.Consumed, apart]
  · obtain rfl := List.mem_singleton.1 last
    have stream : (standing.request.dataspec, { standing.response arguments.excludeDeletions with
        closed := standing.closes arguments count }) ∈ rows.streams := by
      rw [leaves.streams]
      exact List.mem_append_right _ (List.mem_singleton_self _)
    rw [exists_of_key keys stream]
    refine Standing.response_consumed.trans ?_
    rw [and_comm]
    simp

theorem Leaves.resumesSafely {standing : Standing ε} {count : Nat}
    (distinct : (standing.legs.map (·.1.dataspec)).Nodup)
    (leaves : Leaves arguments standing count rows) :
    rows.ResumesSafely held ↔ standing.ResumesSafely arguments.excludeDeletions held := by
  obtain ⟨metadata, has, -, resume, -⟩ := leaves.metadata
  have points (spec : String) (point : Bytes) :
      metadata.resumeFromDatetimeByDataspec.lookup spec = some (some point) ↔ _ :=
    resume ▸ resumePoints_lookup distinct
  have last : (standing.request, standing.answer) ∈ standing.legs := by simp [Standing.legs]
  constructor
  · intro safe
    have given (leg : Leg ε) (among : leg ∈ standing.legs) (point : Bytes)
        (timestamp : point ∈ StoredQueryMeta.lastTimestamp? leg.2.metadata) :
        acceptsPoint point = true ∧ _ :=
      (safe metadata has leg.1.dataspec point
        ((points _ _).2 ⟨leg, among, rfl, timestamp⟩)).imp_right
          (leaves.consumed_iff distinct among).1
    exact
      { accepted := fun leg among point timestamp => (given leg among point timestamp).1
        whole := fun leg among point timestamp => (given leg among point timestamp).2.1
        read := fun point timestamp => (given _ last point timestamp).2.2 rfl }
  · intro safe other same spec point timestamp
    obtain rfl : metadata = other := by simpa [has] using same
    obtain ⟨leg, among, rfl, given⟩ := (points spec point).1 timestamp
    refine ⟨safe.accepted leg among point given, (leaves.consumed_iff distinct among).2
      ⟨safe.whole leg among point given, fun same => ?_⟩⟩
    obtain rfl : leg = (standing.request, standing.answer) :=
      List.inj_on_of_nodup_map distinct among last same
    exact safe.read point given

variable (held) in
theorem QueryRows.ResumesSafely.of_remains {other : QueryRows ε}
    (same : rows.remains = other.remains) :
    rows.ResumesSafely held ↔ other.ResumesSafely held := by
  have streams : rows.streams = other.streams := congrArg (·.1) same
  have metadata : rows.metadata? = other.metadata? := congrArg (·.2.2) same
  rw [QueryRows.ResumesSafely, QueryRows.ResumesSafely, streams, metadata]

theorem Opens.resumesSafely (opens : Opens arguments transport rows) (count : Nat) :
    (QueryRows.iterator.stopAfter count rows).ResumesSafely held ↔
      ∀ standing ∈ arguments.standing? transport count,
        standing.ResumesSafely arguments.excludeDeletions held := by
  rcases opens.standing? count with
    ⟨nowhere, metadata, rfl, -, resume, -⟩ | ⟨standing, stands, leaves, -⟩
  · rw [nowhere, nothing_stopAfter]
    refine ⟨fun _ standing among => (nomatch among), fun _ other same spec point given => ?_⟩
    obtain rfl : metadata = other := by simpa [QueryRows.metadata?] using same
    exact absurd (resume ▸ given) noPoints_lookup
  · rw [leaves.resumesSafely (standing_distinct stands), stands]
    simp

end Points

/-- A stopped query gives points to resume from that are safe exactly when each dataspec
that it has read gives a point that is accepted and has sent all that the server holds, and
the last one was read to its end. -/
theorem resuming_safely_iff (python : PythonStr) (includeRaw : Bool)
    (decodeEnvelope : RecordEnvelope → Except ε β) {arguments : StoredArguments}
    {transport : Transport ε} (held : String → List Json) {rows : QueryRows ε}
    (opened : queryStoredRaw arguments transport = .ok rows) (count : Nat) :
    (((rawRecords python includeRaw).stopAfter count (.created, rows)).2.ResumesSafely held ↔
        ∀ standing ∈ arguments.standing? transport count,
          standing.ResumesSafely arguments.excludeDeletions held) ∧
      (((domainRecords python includeRaw decodeEnvelope).stopAfter count
          (.created, (.created, rows))).2.2.ResumesSafely held ↔
        ∀ standing ∈ arguments.standing? transport
            (arguments.typedCalls transport python includeRaw decodeEnvelope count),
          standing.ResumesSafely arguments.excludeDeletions held) := by
  have opens := queryStoredRaw_opens opened
  have raw := QueryRows.ResumesSafely.of_remains held
    (opens.raw_remains python includeRaw count)
  have domain := QueryRows.ResumesSafely.of_remains held
    (opens.domain_remains python includeRaw decodeEnvelope count)
  exact ⟨raw.trans (opens.resumesSafely count), domain.trans (opens.resumesSafely _)⟩

section Inputs

/-- A server that does not fail, and gives each dataspec this time stamp. -/
def stampedServer (timestamp : String) (held : String → List Json) : Transport Unit :=
  fun request =>
    .ok
      { metadata := Json.record [("last_file_timestamp", Json.text timestamp)]
        rows := sentOf held request }

theorem stampedServer_sends (timestamp : String) (held : String → List Json) :
    SendsHeld (stampedServer timestamp held) held := by
  intro request answer answers
  cases answers
  exact ⟨List.prefix_refl _, fun _ => rfl⟩

def allRacesAndDifferences : StoredArguments := { racesAndDifferences with maxRecords := -1 }

end Inputs

/-- Two races of each dataspec are read, and the points may be used. -/
theorem resuming_safely_iff_stamped :
    ∃ rows, queryStoredRaw allRacesAndDifferences
        (stampedServer "20240229120000" fun _ => [aRace, aRace]) = .ok rows ∧
      ((rawRecords plainText false).stopAfter 5 (.created, rows)).2.ResumesSafely
        fun _ => [aRace, aRace] := by
  have opened : queryStoredRaw allRacesAndDifferences
      (stampedServer "20240229120000" fun _ => [aRace, aRace]) = .ok _ := rfl
  refine ⟨_, opened, (resuming_safely_iff plainText false
    (fun envelope => (.ok envelope : Except Unit RecordEnvelope)) _ opened 5).1.2 ?_⟩
  intro standing stands
  cases stands
  exact
    { accepted := by decide +kernel
      whole := by
        intro leg among _ _
        have rows : leg.2.rows ∈ [[aRace, aRace], [aRace, aRace]] :=
          List.mem_map_of_mem (f := fun leg : Leg Unit => leg.2.rows) among
        simpa using rows
      read := by decide +kernel }

/-- The empty time stamp of a query that found no file is given as a point, and refused. -/
theorem empty_timestamp_is_no_point :
    ¬ ∀ (transport : Transport Unit) (held : String → List Json) (rows : QueryRows Unit)
        (count : Nat), SendsHeld transport held →
      queryStoredRaw allRacesAndDifferences transport = .ok rows →
      ((rawRecords plainText false).stopAfter count (.created, rows)).2.ResumesSafely held := by
  intro safe
  have point := safe (stampedServer "" fun _ => []) _ _ 1 (stampedServer_sends _ _) rfl _ rfl
    "RACE" [] (by decide +kernel)
  have refused : acceptsPoint [] = false := by decide +kernel
  rw [refused] at point
  exact absurd point.1 (by simp)

end JVLinkServer.Client
