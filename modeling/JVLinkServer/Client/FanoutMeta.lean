import JVLinkServer.Client.QueryRuns
import JVLinkServer.JsonRoundTrip

namespace JVLinkServer.Client

open AsyncGenerators

/-! # The metadata of a query over several dataspecs

The entries of `per_dataspec` form a table whose keys are the dataspecs.  It is a table as
long as no payload brings a name of its own.
-/

/-! ## The table -/

/-- A payload that leaves the name of its entry and the marks of the others alone. -/
structure PlainMetadata (payload : Json) : Prop where
  dataspec : payload.member? "dataspec" = none
  pending : payload.member? "pending" = none
  skipped : payload.member? "skipped" = none

section Entries

variable {dataspec : String} {payload : Json}

theorem lookup_ofMembers (members : List (Bytes × Json)) (built : List (Bytes × Json))
    (key : Bytes) (absent : members.lookup key = none) :
    (members.foldl (fun built member => Json.insertMember member.1 member.2 built) built).lookup
      key = built.lookup key := by
  induction members generalizing built with
  | nil => rfl
  | cons member members ih =>
      rw [Json.lookup_member] at absent
      split at absent
      · contradiction
      · next apart =>
          rw [List.foldl_cons, ih _ absent, Json.lookup_insertMember, if_neg apart]

/-- A member that the payload does not have. -/
theorem member?_dataspecEntry {key : String} (absent : payload.member? key = none) :
    (dataspecEntry dataspec payload).member? key =
      if key = "dataspec" then some (.text dataspec) else none := by
  have missing : (membersOf payload).lookup (utf8 key) = none := by
    unfold membersOf
    split
    · exact absent
    · rfl
  change (List.foldl _ (Json.insertMember (utf8 "dataspec") (.text dataspec) []) _).lookup _ = _
  rw [lookup_ofMembers _ _ _ missing]
  change List.lookup (utf8 key) [(utf8 "dataspec", Json.text dataspec)] = _
  simp only [Json.lookup_member, utf8_inj, List.lookup_nil]

theorem entryName?_dataspecEntry (unnamed : payload.member? "dataspec" = none) :
    entryName? (dataspecEntry dataspec payload) = some (utf8 dataspec) := by
  rw [entryName?, member?_dataspecEntry unnamed]
  rfl

/-- An upsert replaces the entry of its dataspec and no other. -/
theorem upsertEntry_map {specs : List String} (distinct : specs.Nodup) {table : String → Json}
    (unnamed : ∀ spec, (table spec).member? "dataspec" = none) (inside : dataspec ∈ specs)
    (payload : Json) :
    upsertEntry dataspec payload (specs.map fun spec => dataspecEntry spec (table spec)) =
      specs.map fun spec =>
        dataspecEntry spec (if spec = dataspec then payload else table spec) := by
  induction specs with
  | nil => cases inside
  | cons first specs ih =>
      obtain ⟨fresh, distinct⟩ := List.nodup_cons.mp distinct
      rw [List.map_cons, List.map_cons, upsertEntry, entryName?_dataspecEntry (unnamed first)]
      by_cases same : first = dataspec
      · subst same
        rw [if_pos rfl, if_pos rfl]
        congr 1
        apply List.map_congr_left
        intro spec member
        rw [if_neg fun same : spec = first => fresh (same ▸ member)]
      · have apart : ¬ some (utf8 first) = some (utf8 dataspec) := by
          rw [Option.some.injEq, utf8_inj]
          exact same
        rw [if_neg apart, if_neg same,
          ih distinct ((List.mem_cons.mp inside).resolve_left (Ne.symm same))]

end Entries

/-! ## What the metadata say -/

namespace StoredArguments

variable (arguments : StoredArguments)

/-- The filter has no type in common with those of the dataspec. -/
def Skips (spec : String) : Prop :=
  ∃ types, arguments.input.recordTypes = some types ∧
    ∀ recordType ∈ types, recordType ∉ (dataspecToRecords.lookup spec).getD []

/-- A request asks for the types of the filter that its dataspec has, or there is no
filter. -/
def AsksShared (request : StoredRequest) : Prop :=
  match arguments.input.recordTypes with
  | none => request.recordTypes = none
  | some types => ∃ asked, request.recordTypes = some asked ∧ ∀ recordType, recordType ∈ asked ↔
      recordType ∈ types ∧ recordType ∈ (dataspecToRecords.lookup request.dataspec).getD []

end StoredArguments

/-- `entry[key] is True` -/
def marked (key : String) (entry : Json) : Prop := entry.member? key = some (.bool true)

/-- The metadata after some dataspecs have been asked and some of them have answered. -/
structure FanoutMeta (arguments : StoredArguments) (asked : List String)
    (answered : List (String × Json)) (metadata : StoredQueryMeta) : Prop where
  named : metadata.perDataspec.map entryName? =
    arguments.input.dataspecs.map fun spec => some (utf8 spec)
  skipped : ∀ spec entry, (spec, entry) ∈ arguments.input.dataspecs.zip metadata.perDataspec →
    (marked "skipped" entry ↔ arguments.Skips spec)
  pending : ∀ spec entry, (spec, entry) ∈ arguments.input.dataspecs.zip metadata.perDataspec →
    (marked "pending" entry ↔ ¬ arguments.Skips spec ∧ spec ∉ asked)
  carried : ∀ spec entry, (spec, entry) ∈ arguments.input.dataspecs.zip metadata.perDataspec →
    ¬ arguments.Skips spec → spec ∈ asked →
    ∃ payload, (spec, payload) ∈ answered ∧ entry = dataspecEntry spec payload
  readCount : metadata.readCount =
    (answered.map fun answer => metaInt (answer.2.member? "read_count")).sum
  downloadCount : metadata.downloadCount =
    (answered.map fun answer => metaInt (answer.2.member? "download_count")).sum
  latest : ∀ timestamp ∈ answered.filterMap fun answer => StoredQueryMeta.lastTimestamp? answer.2,
    ¬ metadata.lastFileTimestamp < timestamp
  held : metadata.lastFileTimestamp = [] ∨ metadata.lastFileTimestamp ∈
    answered.filterMap fun answer => StoredQueryMeta.lastTimestamp? answer.2

/-- What another task can see of a query. -/
structure Seen where
  metadata : StoredQueryMeta
  requests : List StoredRequest

/-- The metadata of the requests that have been answered. -/
def answersOf {ε : Type} (transport : Transport ε) (requests : List StoredRequest) :
    List (String × Json) :=
  requests.filterMap fun request =>
    match transport request with
    | .ok answer => some (request.dataspec, answer.metadata)
    | .error _ => none

/-! ## The moments of a query -/

section Moments

variable {ε : Type}

/-- The states of a call of `combined_rows` at its awaits: while a row is awaited or has come,
while a query is under way and after it. -/
def Fanout.moments (arguments : StoredArguments) (transport : Transport ε) :
    (pending : List String) → Fanout ε → List (Fanout ε)
  | pending, state =>
      let (pulled, after) := state.anextRow arguments.excludeDeletions
      { after with pending } ::
        match pulled, pending with
        | .ends, spec :: rest =>
            if after.tally.limitReached then []
            else
              let request := arguments.request spec after.tally.remaining
              match transport request with
              | .error _ =>
                  [{ after with pending := rest, requests := after.requests ++ [request] }]
              | .ok answer =>
                  let turned := after.turnTo spec rest request answer
                  turned :: moments arguments transport rest turned
        | _, _ => []

def Fanout.seen (state : Fanout ε) : Seen := ⟨state.tally.metadata, state.requests⟩

/-- What can be seen of a query between two calls and during the next one. -/
def QueryRows.moments : QueryRows ε → List Seen
  | .fanout arguments transport combined =>
      combined.2.seen ::
        match combined.1 with
        | .finished => []
        | _ => (Fanout.moments arguments transport combined.2.pending combined.2).map Fanout.seen
  | .none metadata => [⟨metadata, []⟩]
  | .realtime _ | .single _ _ => []

end Moments

/-! ## The table of a query -/

namespace StoredArguments

variable {arguments : StoredArguments} {spec : String}

theorem skips_iff : arguments.Skips spec ↔ arguments.specRecordTypes spec = some [] := by
  unfold Skips specRecordTypes
  cases arguments.input.recordTypes with
  | none => simp
  | some types => simp

theorem mem_effectiveSpecs :
    spec ∈ arguments.effectiveSpecs ↔
      spec ∈ arguments.input.dataspecs ∧ ¬ arguments.Skips spec := by
  unfold effectiveSpecs
  rw [List.mem_filter, skips_iff, bne_iff_ne]

theorem asksShared_request (remaining : Option Int) :
    arguments.AsksShared (arguments.request spec remaining) := by
  unfold AsksShared request specRecordTypes
  cases arguments.input.recordTypes with
  | none => rfl
  | some types => exact ⟨_, rfl, by simp⟩

/-- What the entry of a dataspec is made of. -/
def payloadOf (arguments : StoredArguments) (answered : List (String × Json)) (spec : String) :
    Json :=
  if arguments.specRecordTypes spec = some [] then skippedPayload
  else (answered.lookup spec).getD pendingPayload

end StoredArguments

/-- The metadata are those of the answers so far. -/
structure Recorded (arguments : StoredArguments) (answered : List (String × Json))
    (metadata : StoredQueryMeta) : Prop where
  entries : metadata.perDataspec = arguments.input.dataspecs.map fun spec =>
    dataspecEntry spec (arguments.payloadOf answered spec)
  readCount : metadata.readCount =
    (answered.map fun answer => metaInt (answer.2.member? "read_count")).sum
  downloadCount : metadata.downloadCount =
    (answered.map fun answer => metaInt (answer.2.member? "download_count")).sum
  latest : ∀ timestamp ∈ answered.filterMap fun answer => StoredQueryMeta.lastTimestamp? answer.2,
    ¬ metadata.lastFileTimestamp < timestamp
  held : metadata.lastFileTimestamp = [] ∨ metadata.lastFileTimestamp ∈
    answered.filterMap fun answer => StoredQueryMeta.lastTimestamp? answer.2

section Recording

variable {arguments : StoredArguments} {answered : List (String × Json)}
  {metadata : StoredQueryMeta} {spec : String} {payload : Json}

theorem lookup_mem (found : answered.lookup spec = some payload) : (spec, payload) ∈ answered := by
  obtain ⟨_, _, split, -⟩ := List.lookup_eq_some_iff.mp found
  rw [split]
  simp

theorem lookup_keys (found : answered.lookup spec = none) : spec ∉ answered.map Prod.fst := by
  intro inside
  obtain ⟨answer, member, rfl⟩ := List.mem_map.mp inside
  exact absurd (List.lookup_eq_none_iff.mp found answer member) (by simp)

theorem payloadOf_unmarked (plain : ∀ answer ∈ answered, PlainMetadata answer.2) :
    (arguments.payloadOf answered spec).member? "dataspec" = none := by
  unfold StoredArguments.payloadOf
  split
  · rfl
  · cases found : answered.lookup spec with
    | none => rfl
    | some payload => exact (plain _ (lookup_mem found)).dataspec

/-- The dataspecs that the filter leaves out. -/
theorem skipped_entries (metadata : StoredQueryMeta) {specs : List String}
    (among : ∀ spec ∈ specs, spec ∈ arguments.input.dataspecs)
    {table : String → Json} (unnamed : ∀ spec, (table spec).member? "dataspec" = none)
    (entries : metadata.perDataspec =
      arguments.input.dataspecs.map fun spec => dataspecEntry spec (table spec)) :
    specs.foldl (fun metadata spec => metadata.upsertPerDataspec spec skippedPayload) metadata =
      { metadata with
        perDataspec := arguments.input.dataspecs.map fun spec =>
          dataspecEntry spec (if spec ∈ specs then skippedPayload else table spec) } := by
  induction specs generalizing metadata table with
  | nil =>
      simp only [List.foldl_nil, List.not_mem_nil, if_false, ← entries]
  | cons spec specs ih =>
      have step : (metadata.upsertPerDataspec spec skippedPayload).perDataspec =
          arguments.input.dataspecs.map fun other =>
            dataspecEntry other (if other = spec then skippedPayload else table other) := by
        rw [StoredQueryMeta.upsertPerDataspec, entries]
        exact upsertEntry_map arguments.input.distinct unnamed (among spec (by simp)) _
      have unnamed' : ∀ other,
          (if other = spec then skippedPayload else table other).member? "dataspec" = none := by
        intro other
        split
        · rfl
        · exact unnamed other
      rw [List.foldl_cons, ih _ (fun other inside => among other (by simp [inside])) unnamed' step]
      simp only [StoredQueryMeta.upsertPerDataspec, StoredQueryMeta.mk.injEq, true_and, and_true]
      apply List.map_congr_left
      intro other _
      by_cases same : other = spec
      · simp [same]
      · simp [same]

/-- Before the first query. -/
theorem recorded_start : Recorded arguments [] arguments.fanoutMeta := by
  have whole : arguments.fanoutMeta = _ := skipped_entries
    (.base arguments.input.dataspec arguments.input.dataspecs true)
    (fun spec inside => (List.mem_filter.mp inside).1) (fun _ => rfl) rfl
  constructor
  · rw [whole]
    apply List.map_congr_left
    intro spec inside
    simp only [StoredArguments.payloadOf, List.mem_filter, inside, true_and, beq_iff_eq,
      List.lookup_nil, Option.getD_none]
  · rw [whole]
    rfl
  · rw [whole]
    rfl
  · simp
  · rw [whole]
    exact .inl rfl

theorem Recorded.merge (recorded : Recorded arguments answered metadata)
    (plain : ∀ answer ∈ answered, PlainMetadata answer.2)
    (effective : spec ∈ arguments.effectiveSpecs) (fresh : spec ∉ answered.map Prod.fst) :
    Recorded arguments (answered ++ [(spec, payload)]) (metadata.merge spec payload) := by
  obtain ⟨inside, notSkipped⟩ := StoredArguments.mem_effectiveSpecs.mp effective
  have latest : (metadata.merge spec payload).lastFileTimestamp =
      (StoredQueryMeta.lastTimestamp? payload).elim metadata.lastFileTimestamp fun timestamp =>
        if metadata.lastFileTimestamp < timestamp then timestamp
        else metadata.lastFileTimestamp := by
    unfold StoredQueryMeta.merge
    cases StoredQueryMeta.lastTimestamp? payload <;> rfl
  constructor
  · change upsertEntry spec payload metadata.perDataspec = _
    rw [recorded.entries, upsertEntry_map arguments.input.distinct
      (fun _ => payloadOf_unmarked plain) inside]
    apply List.map_congr_left
    intro other _
    congr 1
    rw [StoredArguments.payloadOf, StoredArguments.payloadOf, List.lookup_append]
    by_cases same : other = spec
    · subst same
      rw [StoredArguments.skips_iff] at notSkipped
      have unanswered := lookup_eq_none fresh
      simp [notSkipped, unanswered]
    · have apart : (other == spec) = false := by simpa using same
      simp [same, List.lookup, apart]
  · change metadata.readCount + _ = _
    rw [recorded.readCount]
    simp
  · change metadata.downloadCount + _ = _
    rw [recorded.downloadCount]
    simp
  · rw [latest, List.filterMap_append]
    intro timestamp inside
    obtain inside | inside := List.mem_append.mp inside
    · have earlier := recorded.latest timestamp inside
      cases StoredQueryMeta.lastTimestamp? payload with
      | none => exact earlier
      | some found =>
          dsimp only [Option.elim]
          split
          · next newer => exact fun later => earlier (List.lt_trans newer later)
          · exact earlier
    · simp only [List.filterMap_cons, List.filterMap_nil] at inside
      split at inside
      · cases inside
      · next found =>
          obtain rfl := List.mem_singleton.mp inside
          simp only [found, Option.elim]
          split
          · exact List.lt_irrefl _
          · next notNewer => exact notNewer
  · rw [latest, List.filterMap_append]
    cases found : StoredQueryMeta.lastTimestamp? payload with
    | none => exact recorded.held.imp id (List.mem_append_left _)
    | some timestamp =>
        dsimp only [Option.elim]
        split
        · exact .inr (List.mem_append_right _ (by simp [found]))
        · exact recorded.held.imp id (List.mem_append_left _)

theorem zip_map_self {α β : Type} {items : List α} {value : α → β} {item : α} {found : β}
    (inside : (item, found) ∈ items.zip (items.map value)) : item ∈ items ∧ found = value item := by
  induction items with
  | nil => cases inside
  | cons first items ih =>
      obtain same | inside := List.mem_cons.mp inside
      · cases same
        exact ⟨List.mem_cons_self, rfl⟩
      · exact ⟨List.mem_cons_of_mem _ (ih inside).1, (ih inside).2⟩

/-- What the entry of a dataspec says of it. -/
theorem marked_payloadOf (plain : ∀ answer ∈ answered, PlainMetadata answer.2) :
    (marked "skipped" (dataspecEntry spec (arguments.payloadOf answered spec)) ↔
      arguments.Skips spec) ∧
    (marked "pending" (dataspecEntry spec (arguments.payloadOf answered spec)) ↔
      ¬ arguments.Skips spec ∧ spec ∉ answered.map Prod.fst) := by
  have unmarked {key : String} {payload : Json} (absent : payload.member? key = none)
      (other : key ≠ "dataspec") : ¬ marked key (dataspecEntry spec payload) := by
    rw [marked, member?_dataspecEntry absent, if_neg other]
    simp
  rw [StoredArguments.skips_iff]
  unfold StoredArguments.payloadOf
  split
  · next skips =>
      have skipped : marked "skipped" (dataspecEntry spec skippedPayload) := rfl
      have notPending : ¬ marked "pending" (dataspecEntry spec skippedPayload) :=
        unmarked rfl (by decide)
      simp [skips, skipped, notPending]
  · next effective =>
      cases found : answered.lookup spec with
      | none =>
          have absent := lookup_keys found
          have pending : marked "pending" (dataspecEntry spec pendingPayload) := rfl
          have notSkipped : ¬ marked "skipped" (dataspecEntry spec pendingPayload) :=
            unmarked rfl (by decide)
          simp only [Option.getD_none]
          exact ⟨iff_of_false notSkipped effective, iff_of_true pending ⟨effective, absent⟩⟩
      | some payload =>
          have member := lookup_mem found
          have inside : spec ∈ answered.map Prod.fst := List.mem_map_of_mem member
          have notSkipped := unmarked (plain _ member).skipped (by decide)
          have notPending := unmarked (plain _ member).pending (by decide)
          simp only [Option.getD_some]
          exact ⟨iff_of_false notSkipped effective,
            iff_of_false notPending fun both => both.2 inside⟩

theorem Recorded.fanoutMeta (recorded : Recorded arguments answered metadata)
    (plain : ∀ answer ∈ answered, PlainMetadata answer.2) :
    FanoutMeta arguments (answered.map Prod.fst) answered metadata where
  named := by
    rw [recorded.entries, List.map_map]
    apply List.map_congr_left
    intro spec _
    exact entryName?_dataspecEntry (payloadOf_unmarked plain)
  skipped := by
    intro spec entry inside
    rw [recorded.entries] at inside
    obtain ⟨-, rfl⟩ := zip_map_self inside
    exact (marked_payloadOf plain).1
  pending := by
    intro spec entry inside
    rw [recorded.entries] at inside
    obtain ⟨-, rfl⟩ := zip_map_self inside
    exact (marked_payloadOf plain).2
  carried := by
    intro spec entry inside effective asked
    rw [recorded.entries] at inside
    obtain ⟨-, rfl⟩ := zip_map_self inside
    obtain ⟨payload, found⟩ := Option.ne_none_iff_exists'.mp fun none => lookup_keys none asked
    rw [StoredArguments.skips_iff] at effective
    refine ⟨payload, lookup_mem found, ?_⟩
    rw [StoredArguments.payloadOf, if_neg effective, found, Option.getD_some]
  readCount := recorded.readCount
  downloadCount := recorded.downloadCount
  latest := recorded.latest
  held := recorded.held

end Recording

/-! ## Runs -/

section Runs

variable {ε τ : Type} {arguments : StoredArguments} {transport : Transport ε}
  {answered : List (String × Json)}

/-- A row more or none. -/
theorem iterateRows_tally (rows : AsyncIterator τ ε Json) (state : Frame × (Tally × τ)) :
    ((iterateRows rows).anext state).2.2.1 = state.2.1 ∨
      ((iterateRows rows).anext state).2.2.1 = state.2.1.count := by
  obtain ⟨frame, tally, state⟩ := state
  cases called : rows.anext state with
  | mk pulled after =>
      cases frame with
      | finished => exact .inl rfl
      | created =>
          simp only [iterateRows, limitedRows, generator_anext_created, called]
          split
          · exact .inl rfl
          · cases pulled with
            | yields row => exact .inr rfl
            | ends => exact .inl rfl
            | raises exception => exact .inl rfl
      | suspended =>
          simp only [iterateRows, limitedRows, generator_anext_suspended, called]
          split
          · exact .inl rfl
          · cases pulled with
            | yields row => exact .inr rfl
            | ends => exact .inl rfl
            | raises exception => exact .inl rfl

/-- The requests so far are those for the first of the dataspecs that the filter leaves, and
the metadata are those of their answers. -/
structure Fanout.Ledger (arguments : StoredArguments) (transport : Transport ε)
    (pending : List String) (state : Fanout ε) : Prop where
  recorded : Recorded arguments (answersOf transport state.requests) state.tally.metadata
  asked : state.requests.map (·.dataspec) ++ pending = arguments.effectiveSpecs
  shared : ∀ request ∈ state.requests, arguments.AsksShared request
  unlimited : arguments.limit = none → state.tally.remaining = none
  processed : state.allSpecsProcessed = true → pending = []
  completed : arguments.limit = none → state.tally.metadata.completed = true →
    state.allSpecsProcessed = true

theorem answersOf_concat (requests : List StoredRequest) (request : StoredRequest) :
    answersOf transport (requests ++ [request]) =
      answersOf transport requests ++
        match transport request with
        | .ok answer => [(request.dataspec, answer.metadata)]
        | .error _ => [] := by
  rw [answersOf, List.filterMap_append, List.filterMap_cons]
  cases transport request <;> rfl

/-- Only dataspecs that have been asked answer. -/
theorem mem_answersOf {requests : List StoredRequest} {answer : String × Json}
    (inside : answer ∈ answersOf transport requests) :
    answer.1 ∈ requests.map (·.dataspec) ∧
      ∃ request whole, transport request = .ok whole ∧ answer.2 = whole.metadata := by
  obtain ⟨request, asked, found⟩ := List.mem_filterMap.mp inside
  cases answered : transport request with
  | error exception => simp [answered] at found
  | ok whole =>
      simp only [answered, Option.some.injEq] at found
      exact ⟨found ▸ List.mem_map_of_mem asked, request, whole, answered, found ▸ rfl⟩

theorem answersOf_plain
    (plain : ∀ request answer, transport request = .ok answer → PlainMetadata answer.metadata)
    (requests : List StoredRequest) :
    ∀ answer ∈ answersOf transport requests, PlainMetadata answer.2 := by
  intro answer inside
  obtain ⟨-, request, whole, answered, same⟩ := mem_answersOf inside
  exact same ▸ plain request whole answered

namespace Fanout.Ledger

variable {pending : List String} {state : Fanout ε} {spec : String}

theorem anextRow (ledger : Ledger arguments transport pending state) (excludeDeletions : Bool) :
    Ledger arguments transport pending (state.anextRow excludeDeletions).2 := by
  have moved : (state.anextRow excludeDeletions).2.tally = state.tally ∨
      (state.anextRow excludeDeletions).2.tally = state.tally.count :=
    iterateRows_tally (records excludeDeletions) (state.iterating, (state.tally, state.rows))
  have recorded := ledger.recorded
  refine ⟨?_, ledger.asked, ledger.shared, ?_, ledger.processed, ?_⟩
  · obtain same | counted := moved
    · exact same ▸ recorded
    · rw [counted]
      exact ⟨recorded.entries, recorded.readCount, recorded.downloadCount, recorded.latest,
        recorded.held⟩
  · intro none
    obtain same | counted := moved
    · exact same ▸ ledger.unlimited none
    · simp [counted, Tally.count, ledger.unlimited none]
  · intro none completed
    obtain same | counted := moved
    · exact ledger.completed none (same ▸ completed)
    · exact ledger.completed none (by simpa [counted, Tally.count] using completed)

theorem askedOne (ledger : Ledger arguments transport (spec :: pending) state)
    (remaining : Option Int) :
    (state.requests ++ [arguments.request spec remaining]).map (·.dataspec) ++ pending =
        arguments.effectiveSpecs ∧
      ∀ request ∈ state.requests ++ [arguments.request spec remaining],
        arguments.AsksShared request := by
  constructor
  · rw [← ledger.asked]
    simp [StoredArguments.request]
  · intro request inside
    obtain inside | inside := List.mem_append.mp inside
    · exact ledger.shared request inside
    · obtain rfl := List.mem_singleton.mp inside
      exact StoredArguments.asksShared_request remaining

theorem refused (ledger : Ledger arguments transport (spec :: pending) state)
    {remaining : Option Int} {exception : ε}
    (fails : transport (arguments.request spec remaining) = .error exception) :
    Ledger arguments transport pending
      { state with pending, requests := state.requests ++ [arguments.request spec remaining] } where
  recorded := by
    rw [answersOf_concat, fails, List.append_nil]
    exact ledger.recorded
  asked := (ledger.askedOne remaining).1
  shared := (ledger.askedOne remaining).2
  unlimited := ledger.unlimited
  processed := fun processed => absurd (ledger.processed processed) (List.cons_ne_nil _ _)
  completed := ledger.completed

theorem turnTo (ledger : Ledger arguments transport (spec :: pending) state)
    (plain : ∀ request answer, transport request = .ok answer → PlainMetadata answer.metadata)
    {remaining : Option Int} {answer : Answer ε}
    (answers : transport (arguments.request spec remaining) = .ok answer) :
    Ledger arguments transport pending
      (state.turnTo spec pending (arguments.request spec remaining) answer) where
  recorded := by
    have distinct : arguments.effectiveSpecs.Nodup := arguments.input.distinct.filter _
    have effective : spec ∈ arguments.effectiveSpecs := by
      rw [← ledger.asked]
      simp
    have fresh : spec ∉ (answersOf transport state.requests).map Prod.fst := by
      intro inside
      obtain ⟨earlier, member, same⟩ := List.mem_map.mp inside
      have earlierAsked := (mem_answersOf member).1
      rw [← ledger.asked] at distinct
      exact (List.nodup_append.mp distinct).2.2 _ earlierAsked spec (by simp) same
    change Recorded arguments (answersOf transport (state.requests ++ _)) _
    rw [answersOf_concat, answers]
    exact ledger.recorded.merge (answersOf_plain plain _) effective fresh
  asked := (ledger.askedOne remaining).1
  shared := (ledger.askedOne remaining).2
  unlimited := ledger.unlimited
  processed := fun processed => absurd (ledger.processed processed) (List.cons_ne_nil _ _)
  completed := ledger.completed

theorem complete (ledger : Ledger arguments transport pending state) :
    Ledger arguments transport pending state.complete where
  recorded := ⟨ledger.recorded.entries, ledger.recorded.readCount, ledger.recorded.downloadCount,
    ledger.recorded.latest, ledger.recorded.held⟩
  asked := ledger.asked
  shared := ledger.shared
  unlimited := ledger.unlimited
  processed := ledger.processed
  completed := by
    intro none completed
    have unreached : state.tally.limitReached = false := by
      rw [Tally.limitReached, ledger.unlimited none]
    have stopped : (state.allSpecsProcessed || state.tally.limitReached) = true := completed
    rwa [unreached, Bool.or_false] at stopped

/-- The list of the dataspecs to come is a record. -/
theorem withPending (ledger : Ledger arguments transport pending state) :
    Ledger arguments transport pending { state with pending } :=
  ⟨ledger.recorded, ledger.asked, ledger.shared, ledger.unlimited, ledger.processed,
    ledger.completed⟩

/-- Every state of a call keeps the ledger. -/
theorem moments (ledger : Ledger arguments transport pending state)
    (plain : ∀ request answer, transport request = .ok answer → PlainMetadata answer.metadata) :
    ∀ moment ∈ Fanout.moments arguments transport pending state,
      Ledger arguments transport moment.pending moment := by
  induction pending generalizing state with
  | nil =>
      intro moment inside
      have kept := ledger.anextRow arguments.excludeDeletions
      rw [Fanout.moments] at inside
      obtain rfl | inside := List.mem_cons.mp inside
      · exact kept.withPending
      · split at inside
        · next impossible => cases impossible
        · cases inside
  | cons spec pending ih =>
      intro moment inside
      have kept := ledger.anextRow arguments.excludeDeletions
      rw [Fanout.moments] at inside
      revert kept inside
      cases state.anextRow arguments.excludeDeletions with
      | mk pulled after =>
          intro inside kept
          obtain rfl | inside := List.mem_cons.mp inside
          · exact kept.withPending
          · cases pulled with
            | yields row => cases inside
            | raises exception => cases inside
            | ends =>
                dsimp only at inside kept
                split at inside
                · cases inside
                · split at inside
                  · next exception called =>
                      obtain rfl := List.mem_singleton.mp inside
                      exact kept.refused called
                  · next answer called =>
                      have turned := kept.turnTo plain called
                      obtain rfl | inside := List.mem_cons.mp inside
                      · exact turned
                      · exact ih turned moment inside

/-- What a call leaves keeps it too. -/
theorem advance (ledger : Ledger arguments transport pending state)
    (plain : ∀ request answer, transport request = .ok answer → PlainMetadata answer.metadata) :
    Ledger arguments transport (Fanout.advance arguments transport pending state).2.pending
      (Fanout.advance arguments transport pending state).2 := by
  induction pending generalizing state with
  | nil =>
      have kept := ledger.anextRow arguments.excludeDeletions
      rw [Fanout.advance]
      revert kept
      cases state.anextRow arguments.excludeDeletions with
      | mk pulled after =>
          intro kept
          have stays : Ledger arguments transport [] { after with pending := [] } :=
            kept.withPending
          cases pulled with
          | yields row => exact stays
          | raises exception => exact stays
          | ends =>
              dsimp only
              split
              · exact stays
              · exact ⟨kept.recorded, kept.asked, kept.shared, kept.unlimited, fun _ => rfl,
                  fun _ _ => rfl⟩
  | cons spec pending ih =>
      have kept := ledger.anextRow arguments.excludeDeletions
      rw [Fanout.advance]
      revert kept
      cases state.anextRow arguments.excludeDeletions with
      | mk pulled after =>
          intro kept
          have stays : Ledger arguments transport (spec :: pending)
              { after with pending := spec :: pending } := kept.withPending
          cases pulled with
          | yields row => exact stays
          | raises exception => exact stays
          | ends =>
              dsimp only at kept ⊢
              split
              · exact stays
              · split
                · exact stays
                · split
                  · next exception called => exact kept.refused called
                  · next answer called => exact ih (kept.turnTo plain called)

/-- So do the calls of the generator. -/
theorem next (ledger : Ledger arguments transport state.pending state)
    (plain : ∀ request answer, transport request = .ok answer → PlainMetadata answer.metadata) :
    Ledger arguments transport
      (settle (finallyDo Fanout.complete
        (Fanout.advance arguments transport state.pending state))).2.2.pending
      (settle (finallyDo Fanout.complete
        (Fanout.advance arguments transport state.pending state))).2.2 := by
  have kept := ledger.advance plain
  revert kept
  cases Fanout.advance arguments transport state.pending state with
  | mk pulled after =>
      intro kept
      cases pulled with
      | yields row => exact kept
      | ends => exact kept.complete
      | raises exception => exact kept.complete

end Fanout.Ledger

/-! ## The query -/

/-- What holds of the metadata and the requests that are seen at a moment of a query. -/
structure Seen.Faithful (arguments : StoredArguments) (transport : Transport ε) (seen : Seen) :
    Prop where
  metadata : FanoutMeta arguments ((answersOf transport seen.requests).map Prod.fst)
    (answersOf transport seen.requests) seen.metadata
  ordered : seen.requests.map (·.dataspec) <+: arguments.effectiveSpecs
  shared : ∀ request ∈ seen.requests, arguments.AsksShared request
  everyOne : arguments.maxRecords < 0 → seen.metadata.completed = true →
    seen.requests.map (·.dataspec) = arguments.effectiveSpecs

theorem Fanout.Ledger.faithful {pending : List String} {state : Fanout ε}
    (ledger : Ledger arguments transport pending state)
    (plain : ∀ request answer, transport request = .ok answer → PlainMetadata answer.metadata) :
    state.seen.Faithful arguments transport where
  metadata := ledger.recorded.fanoutMeta (answersOf_plain plain _)
  ordered := ⟨pending, ledger.asked⟩
  shared := ledger.shared
  everyOne := by
    intro negative completed
    have unlimited : arguments.limit = none := if_pos negative
    have asked := ledger.asked
    rw [ledger.processed (ledger.completed unlimited completed), List.append_nil] at asked
    exact asked

/-- The rows of a query that keeps its ledger. -/
def QueryRows.Kept (arguments : StoredArguments) (transport : Transport ε) :
    QueryRows ε → Prop
  | .fanout arguments' transport' combined =>
      arguments' = arguments ∧ transport' = transport ∧
        Fanout.Ledger arguments transport combined.2.pending combined.2
  | .none metadata => arguments.effectiveSpecs = [] ∧ Recorded arguments [] metadata
  | .realtime _ | .single _ _ => False

section Query

variable (plain : ∀ request answer, transport request = .ok answer → PlainMetadata answer.metadata)
include plain

theorem QueryRows.Kept.anext {rows : QueryRows ε} (kept : rows.Kept arguments transport) :
    (QueryRows.iterator.anext rows).2.Kept arguments transport := by
  cases rows with
  | fanout _ _ combined =>
      obtain ⟨frame, state⟩ := combined
      obtain ⟨rfl, rfl, ledger⟩ := kept
      refine ⟨rfl, rfl, ?_⟩
      cases frame with
      | finished => exact ledger
      | created => exact ledger.next plain
      | suspended => exact ledger.next plain
  | none metadata => exact kept
  | realtime rows => cases kept
  | single _ counted => cases kept

omit plain in
theorem QueryRows.Kept.aclose {rows : QueryRows ε} (kept : rows.Kept arguments transport) :
    (QueryRows.iterator.aclose rows).Kept arguments transport := by
  cases rows with
  | fanout _ _ combined =>
      obtain ⟨frame, state⟩ := combined
      obtain ⟨rfl, rfl, ledger⟩ := kept
      refine ⟨rfl, rfl, ?_⟩
      cases frame with
      | suspended => exact ledger.complete
      | created => exact ledger
      | finished => exact ledger
  | none metadata => exact kept
  | realtime rows => cases kept
  | single _ counted => cases kept

theorem queryStoredRawFanout_kept {rows : QueryRows ε}
    (opened : queryStoredRawFanout arguments transport = .ok rows) :
    rows.Kept arguments transport := by
  rw [queryStoredRawFanout] at opened
  split at opened
  · next none =>
      cases opened
      exact ⟨none, ⟨recorded_start.entries, recorded_start.readCount, recorded_start.downloadCount,
        recorded_start.latest, recorded_start.held⟩⟩
  · next first pending some =>
      cases called : transport (arguments.request first arguments.limit) with
      | error exception => simp [called, bind, Except.bind] at opened
      | ok answer =>
          simp only [called, bind, Except.bind, pure, Except.pure, Except.ok.injEq] at opened
          subst opened
          have before : Fanout.Ledger arguments transport (first :: pending)
              { tally := { remaining := arguments.limit, metadata := arguments.fanoutMeta }
                pending := first :: pending
                requests := []
                spec := first
                rows := answer.stream } :=
            ⟨recorded_start, some.symm, by simp, id, by simp, by
              simp [arguments.fanoutMeta_facts.2.2]⟩
          have turned := before.turnTo plain called
          exact ⟨rfl, rfl, turned.recorded, turned.asked, turned.shared, turned.unlimited, by simp,
            turned.completed⟩

theorem QueryRows.Kept.faithful {rows : QueryRows ε} (kept : rows.Kept arguments transport) :
    ∀ seen ∈ rows.moments, seen.Faithful arguments transport := by
  intro seen inside
  cases rows with
  | fanout asked asks combined =>
      obtain ⟨frame, state⟩ := combined
      obtain ⟨rfl, rfl, ledger⟩ := kept
      obtain rfl | inside := List.mem_cons.mp inside
      · exact ledger.faithful plain
      · have going : seen ∈ (Fanout.moments asked asks state.pending state).map Fanout.seen := by
          cases frame with
          | finished => cases inside
          | created => exact inside
          | suspended => exact inside
        obtain ⟨moment, member, rfl⟩ := List.mem_map.mp going
        exact (ledger.moments plain moment member).faithful plain
  | realtime rows => cases kept
  | single _ counted => cases kept
  | none metadata =>
      obtain ⟨none, recorded⟩ := kept
      obtain rfl := List.mem_singleton.mp inside
      exact ⟨recorded.fanoutMeta (by simp), List.nil_prefix, by simp, fun _ _ => none.symm⟩

/-- At every moment of a query over several dataspecs the metadata are those of the dataspecs
that have answered, and the requests go to the first of the dataspecs that the filter leaves. -/
theorem fanout_faithful {rows : QueryRows ε}
    (opened : queryStoredRawFanout arguments transport = .ok rows)
    (calls : List AsyncIterator.Call) {seen : Seen}
    (moment : seen ∈ (QueryRows.iterator.after calls rows).moments) :
    seen.Faithful arguments transport := by
  have kept : (QueryRows.iterator.after calls rows).Kept arguments transport :=
    AsyncIterator.after_keeps (fun _ => .anext plain) (fun _ => .aclose) calls
      (queryStoredRawFanout_kept plain opened)
  exact kept.faithful plain seen moment

end Query

end Runs

section Inputs

/-- The races of two dataspecs. -/
def racesOfTwo : StoredArguments where
  input :=
    { dataspec := "RACEDIFF", dataspecs := ["RACE", "DIFF"], fromDatetime := "20240101000000"
      recordTypes := some ["RA", "O1"]
      distinct := by decide }
  option := 1
  maxRecords := -1

/-- No rows, but their counts. -/
def countsAnswer : Json :=
  .record [("read_count", .integer 2), ("download_count", .text "1"),
    ("last_file_timestamp", .text "20240101000000")]

def countsServer : Transport Unit := fun _ => .ok { metadata := countsAnswer }

/-- The second dataspec is refused. -/
def refusingServer : Transport Unit := fun request =>
  if request.dataspec = "DIFF" then .error () else .ok { metadata := countsAnswer }

/-- The metadata of every dataspec names another. -/
def renamingServer : Transport Unit := fun _ =>
  .ok { metadata := .record [("dataspec", .text "0B12")] }

theorem countsAnswer_plain : PlainMetadata countsAnswer := ⟨rfl, rfl, rfl⟩

end Inputs

theorem fanout_faithful_counts :
    ∃ rows seen, queryStoredRawFanout racesOfTwo countsServer = .ok rows ∧
      seen ∈ (QueryRows.iterator.after [.anext] rows).moments ∧ seen.metadata.readCount = 4 ∧
      seen.Faithful racesOfTwo countsServer := by
  refine ⟨_, _, rfl, .head _, rfl, fanout_faithful (fun request answer answers => ?_) rfl [.anext]
    (.head _)⟩
  cases answers
  exact countsAnswer_plain

/-- A dataspec whose query has failed stays pending, and metadata with a name of their own
take the place of the dataspec's. -/
theorem refused_dataspec_stays_pending :
    (¬ ∀ (arguments : StoredArguments) (transport : Transport Unit) (rows : QueryRows Unit)
        (calls : List AsyncIterator.Call) (seen : Seen),
      queryStoredRawFanout arguments transport = .ok rows →
      seen ∈ (QueryRows.iterator.after calls rows).moments →
      FanoutMeta arguments (seen.requests.map (·.dataspec)) (answersOf transport seen.requests)
        seen.metadata) ∧
    ¬ ∀ (arguments : StoredArguments) (transport : Transport Unit) (rows : QueryRows Unit)
        (calls : List AsyncIterator.Call) (seen : Seen),
      queryStoredRawFanout arguments transport = .ok rows →
      seen ∈ (QueryRows.iterator.after calls rows).moments →
      FanoutMeta arguments ((answersOf transport seen.requests).map Prod.fst)
        (answersOf transport seen.requests) seen.metadata := by
  constructor
  · intro claimed
    have refused :=
      (claimed racesOfTwo refusingServer _ [] _ rfl (.tail _ (.tail _ (.head _)))).pending
        "DIFF" (dataspecEntry "DIFF" pendingPayload) (.tail _ (.head _))
    exact (refused.mp rfl).2 (.tail _ (.head _))
  · intro claimed
    have named := (claimed racesOfTwo renamingServer _ [] _ rfl (.head _)).named
    revert named
    decide

end JVLinkServer.Client
