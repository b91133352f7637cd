import JVLinkServer.Batches
import JVLinkServer.Client.Concatenation
import JVLinkServer.Client.Records
import JVLinkServer.Client.RowDecoding

namespace JVLinkServer.Client

open AsyncGenerators JVLinkServer.Records

/-! # Typed records of a query -/

variable {ε : Type}

/-! ## Rows of the transport -/

section Transport

variable {arguments : StoredArguments} {transport : Transport ε} {kept : Json → Prop}

theorem keptRows_subset (excludeDeletions : Bool) (rows : List Json) :
    keptRows excludeDeletions rows ⊆ rows := by
  cases excludeDeletions with
  | false => exact List.Subset.refl rows
  | true => exact fun _ inside => List.mem_of_mem_filter inside

theorem Standing.yielded_own {excludeDeletions : Bool} {request : StoredRequest}
    {answer : Answer ε} (own : ∀ row ∈ answer.rows, kept row) (taken : Nat)
    (ended : Option (Stop ε)) :
    ∀ row ∈ Standing.yielded excludeDeletions { request, answer, taken, ended }, kept row := by
  intro row member
  rw [Standing.yielded, List.flatMap_nil, List.nil_append] at member
  exact own row (keptRows_subset excludeDeletions _ (List.mem_of_mem_take member))

variable (arguments transport) in
/-- A consumer stands in the first response, or the query has gone on behind it. -/
theorem standing_cases (pending : List String) (remaining : Option Int) (request : StoredRequest)
    (answer : Answer ε) (count : Nat) :
    (∃ taken ended, standing arguments transport pending remaining request answer count =
        { request, answer, taken, ended }) ∨
      ∃ spec rest left next answered later, pending = spec :: rest ∧
        transport next = .ok answered ∧
        standing arguments transport pending remaining request answer count =
          (standing arguments transport rest left next answered later).behind
            [(request, answer)] := by
  by_cases within : count ≤ share remaining (keptRows arguments.excludeDeletions answer.rows)
  · exact .inl ⟨_, _, standing_within within⟩
  · have past := Nat.lt_of_not_le within
    cases hit : limitHit remaining (keptRows arguments.excludeDeletions answer.rows) with
    | true => exact .inl ⟨_, _, standing_hit past hit⟩
    | false =>
        cases failure : answer.failure with
        | some exception => exact .inl ⟨_, _, standing_failed past hit failure⟩
        | none =>
            cases pending with
            | nil => exact .inl ⟨_, _, standing_exhausted past hit failure⟩
            | cons spec rest =>
                cases answers : transport (arguments.request spec (remaining.map
                    (· - ((keptRows arguments.excludeDeletions answer.rows).length : Int)))) with
                | error exception =>
                    exact .inl ⟨_, _, standing_refused past hit failure rfl answers⟩
                | ok answered =>
                    exact .inr ⟨spec, rest, _, _, answered, _, rfl, answers,
                      standing_next past hit failure rfl answers⟩

/-- What the rows of every answer have in common, the rows that come out have. -/
theorem standing_yields
    (sends : ∀ request answer, transport request = .ok answer → ∀ row ∈ answer.rows, kept row)
    {pending : List String} {remaining : Option Int} {request : StoredRequest} {answer : Answer ε}
    (own : ∀ row ∈ answer.rows, kept row) (count : Nat) :
    ∀ row ∈ (standing arguments transport pending remaining request answer count).yielded
      arguments.excludeDeletions, kept row := by
  induction pending generalizing remaining request answer count with
  | nil =>
      rcases standing_cases arguments transport [] remaining request answer count with
        ⟨taken, ended, here⟩ | ⟨spec, rest, left, next, answered, later, nothing, -⟩
      · rw [here]
        exact Standing.yielded_own own taken ended
      · cases nothing
  | cons spec rest ih =>
      rcases standing_cases arguments transport (spec :: rest) remaining request answer count with
        ⟨taken, ended, here⟩ | ⟨first, others, left, next, answered, later, same, answers, behind⟩
      · rw [here]
        exact Standing.yielded_own own taken ended
      · obtain ⟨rfl, rfl⟩ := List.cons.inj same
        rw [behind, yielded_behind]
        intro row member
        cases List.mem_append.mp member with
        | inl leg => exact own row (keptRows_subset _ _ leg)
        | inr more => exact ih (sends next answered answers) later row more

theorem Opens.yields {rows : QueryRows ε} (opens : Opens arguments transport rows)
    (sends : ∀ request answer, transport request = .ok answer → ∀ row ∈ answer.rows, kept row)
    (count : Nat) : ∀ row ∈ QueryRows.iterator.values count rows, kept row := by
  rcases opens.standing? count with ⟨-, metadata, rfl, -⟩ | ⟨reached, stands, -, values⟩
  · have ended : QueryRows.iterator.anext (.none metadata : QueryRows ε) =
        (.ends, .none metadata) := rfl
    rw [AsyncIterator.values_ended ended]
    exact fun _ nowhere => absurd nowhere List.not_mem_nil
  · obtain ⟨pending, request, answer, rfl, answers, -, -⟩ := arguments.standing?_eq stands
    rw [values]
    exact standing_yields sends (sends request answer answers) count

end Transport

/-! ## Decoding them -/

section Typed

variable (python : PythonStr) (raised : ConversionError → ε)

/-- `decode_envelope` of the decoder that every client has. -/
def decodeEnvelope (envelope : RecordEnvelope) : Except ε DomainEnvelope :=
  ((RecordDecoder.default python).decodeEnvelope python envelope).mapError raised

/-- Every row of the server is that of a record. -/
def FromServer (codePage : Bytes → Option Bytes) (transport : Transport ε) : Prop :=
  ∀ request answer, transport request = .ok answer →
    ∀ row ∈ answer.rows, row ∈ Set.range (storedRow codePage)

variable {python} {raised}

theorem decodeEnvelope_ok_iff {includeRaw : Bool} {row : Json} {domain : DomainEnvelope} :
    decodeEnvelope python raised (toEnvelope python includeRaw row) = .ok domain ↔
      decodeRow python includeRaw row = .ok domain := by
  unfold decodeEnvelope decodeRow
  cases (RecordDecoder.default python).decodeEnvelope python
    (toEnvelope python includeRaw row) with
  | ok value => simp [Except.mapError]
  | error exception => simp [Except.mapError]

variable {codePage : Bytes → Option Bytes} (capitals : KeepsCapitals python)
  (page : CodePage932 codePage) (includeRaw : Bool) {arguments : StoredArguments}
  {transport : Transport ε} {rows : QueryRows ε} (served : FromServer codePage transport)
include capitals page served

variable (raised) in
/-- Some calls give one typed record for each row, and raise nothing that the rows do not. -/
theorem Opens.typed_runs (opens : Opens arguments transport rows) (count : Nat) :
    ∃ records, QueryRows.iterator.values count rows = records.map (storedRow codePage) ∧
      List.Forall₂
        (fun record domain => decodeRow python includeRaw (storedRow codePage record) = .ok domain)
        records
        ((domainRecords python includeRaw (decodeEnvelope python raised)).values count
          (.created, (.created, rows))) ∧
      (domainRecords python includeRaw (decodeEnvelope python raised)).raised count
          (.created, (.created, rows)) = QueryRows.iterator.raised count rows := by
  have live : Frame.created ≠ .finished := by simp
  have settles : (rawRecords (ε := ε) python includeRaw).Settles := generator_settles
  have among :
      QueryRows.iterator.values count rows ∈ Set.range (List.map (storedRow codePage)) := by
    rw [Set.range_list_map]
    exact opens.yields served count
  obtain ⟨records, same⟩ := among
  have envelopes : (rawRecords python includeRaw).values count (.created, rows) =
      (QueryRows.iterator.values count rows).map (toEnvelope python includeRaw) :=
    (forwarding_runs QueryRows.iterator_settles (fun _ => rfl) live count).1
  have calm : (rawRecords python includeRaw).raised count (.created, rows) =
      QueryRows.iterator.raised count rows :=
    (forwarding_runs QueryRows.iterator_settles (fun _ => rfl) live count).2.1
  rw [← same, List.map_map] at envelopes
  have decodes : ∀ envelope ∈ (rawRecords python includeRaw).values count (.created, rows),
      ∃ domain, decodeEnvelope python raised envelope = .ok domain := by
    intro envelope member
    rw [envelopes] at member
    obtain ⟨record, -, rfl⟩ := List.mem_map.mp member
    obtain ⟨domain, decoded⟩ := decodeRow_ok capitals includeRaw page record
    exact ⟨domain, decodeEnvelope_ok_iff.mpr decoded⟩
  obtain ⟨each, same_raised⟩ := forwarding_converts settles live count decodes
  refine ⟨records, same.symm, ?_, same_raised.trans calm⟩
  rw [envelopes, List.forall₂_map_left_iff] at each
  exact each.imp fun _ _ decoded => decodeEnvelope_ok_iff.mp decoded

omit capitals page served in
theorem pullsUntil_never {α : Type} {fails : α → Bool} {values : List α}
    (never : ∀ value ∈ values, fails value = false) (count : Nat) :
    pullsUntil fails values count = count := by
  have nowhere : values.findIdx? fails = none := List.findIdx?_eq_none_iff.2 never
  rw [pullsUntil, nowhere]

variable (raised) in
/-- A stored query, stopped after some calls: its typed records are those of the rows that came
out, one for each, and what is left behind is what the raw query leaves. -/
theorem typed_records (opened : queryStoredRaw arguments transport = .ok rows) (count : Nat) :
    ∃ records, QueryRows.iterator.values count rows = records.map (storedRow codePage) ∧
      List.Forall₂
        (fun record domain => decodeRow python includeRaw (storedRow codePage record) = .ok domain)
        records
        ((domainRecords python includeRaw (decodeEnvelope python raised)).values count
          (.created, (.created, rows))) ∧
      (domainRecords python includeRaw (decodeEnvelope python raised)).raised count
          (.created, (.created, rows)) = QueryRows.iterator.raised count rows ∧
      ((domainRecords python includeRaw (decodeEnvelope python raised)).stopAfter count
          (.created, (.created, rows))).2.2.remains =
        (QueryRows.iterator.stopAfter count rows).remains := by
  have opens := queryStoredRaw_opens opened
  obtain ⟨records, same, each, calm⟩ :=
    opens.typed_runs raised capitals page includeRaw served count
  refine ⟨records, same, each, calm, ?_⟩
  rw [opens.domain_remains python includeRaw, ← opens.typedCalls python includeRaw, same,
    pullsUntil_never]
  intro envelope member
  rw [List.map_map] at member
  obtain ⟨record, -, rfl⟩ := List.mem_map.mp member
  obtain ⟨domain, decoded⟩ := decodeRow_ok capitals includeRaw page record
  have converts : decodeEnvelope python raised
      (toEnvelope python includeRaw (storedRow codePage record)) = .ok domain :=
    decodeEnvelope_ok_iff.mpr decoded
  rw [Raises, Function.comp_apply, converts]

/-! ## Batches -/

omit capitals page served in
/-- `_collect_batches` -/
def collectBatches {σ α : Type} (valueError : Int → ε) (size : Int)
    (records : AsyncIterator σ ε α) : AsyncIterator (Frame × (Bool × σ)) ε (List α) :=
  batching (if size ≤ 0 then some (valueError size) else none) size.toNat records

variable (raised) in
/-- The batches of a stored query are its typed records in their order, and closing them does
not close the query: it stays where the calls for the batches have left it. -/
theorem typed_batches (opened : queryStoredRaw arguments transport = .ok rows)
    (valueError : Int → ε) {size : Int} (positive : 0 < size) (count : Nat) :
    let typed := domainRecords python includeRaw (decodeEnvelope python raised)
    let batches := collectBatches valueError size typed
    let calls := count * size.toNat
    ∃ records domains, QueryRows.iterator.values calls rows = records.map (storedRow codePage) ∧
      List.Forall₂
        (fun record domain => decodeRow python includeRaw (storedRow codePage record) = .ok domain)
        records domains ∧
      Batched size.toNat domains (QueryRows.iterator.raised calls rows).isSome
        (batches.values count (.created, (false, (.created, (.created, rows))))) ∧
      batches.raised count (.created, (false, (.created, (.created, rows)))) =
        QueryRows.iterator.raised calls rows ∧
      (batches.stopAfter count (.created, (false, (.created, (.created, rows))))).2.2 =
        typed.pull calls (.created, (.created, rows)) := by
  intro typed batches calls
  have accepted : batches = batching none size.toNat typed := by
    change batching (if size ≤ 0 then some (valueError size) else none) size.toNat typed = _
    rw [if_neg (by omega)]
  have live : Frame.created ≠ .finished := by simp
  obtain ⟨records, same, each, calm⟩ :=
    (queryStoredRaw_opens opened).typed_runs raised capitals page includeRaw served calls
  have run : Batched size.toNat (typed.values calls (.created, (.created, rows))) _ _ ∧ _ :=
    batching_runs typed generator_settles (Int.pos_iff_toNat_pos.mp positive) live count
  obtain ⟨batched, alike, pulled⟩ := run
  change typed.raised calls _ = _ at calm
  rw [calm] at batched alike
  refine ⟨records, _, same, each, ?_, ?_, ?_⟩
  · rw [accepted]
    exact batched
  · rw [accepted]
    exact alike
  · rw [accepted, AsyncIterator.stopAfter, batching_aclose]
    exact pulled

end Typed

section Inputs

/-- A server that holds three records. -/
def horsesServer : Transport Unit := fun _ =>
  .ok {
    metadata := .object []
    rows := [nameRecord, withdrawalRecord, nameRecord].map (storedRow printablePage) }

theorem horsesServer_sends : FromServer printablePage horsesServer := by
  intro request answer answers
  cases answers
  intro row member
  obtain ⟨record, -, same⟩ := List.mem_map.mp member
  exact ⟨record, same⟩

/-- They come with four calls, the last of which finds the end. -/
theorem horsesServer_rows : ∃ rows : QueryRows Unit,
    queryStoredRaw racesWithoutDeletions horsesServer = .ok rows ∧
      (QueryRows.iterator.values 4 rows).length = 3 ∧ QueryRows.iterator.raised 4 rows = none :=
  ⟨_, rfl, by decide +kernel, by decide +kernel⟩

end Inputs

theorem typed_records_horse : ∃ (rows : QueryRows Unit) (records : List Bytes)
    (domains : List DomainEnvelope),
    queryStoredRaw racesWithoutDeletions horsesServer = .ok rows ∧
      QueryRows.iterator.values 4 rows = records.map (storedRow printablePage) ∧
      List.Forall₂ (fun record domain =>
        decodeRow plainText true (storedRow printablePage record) = .ok domain) records domains ∧
      domains.length = 3 := by
  have capitals : KeepsCapitals plainText := fun _ _ => rfl
  obtain ⟨rows, opened, three, -⟩ := horsesServer_rows
  obtain ⟨records, same, each, -⟩ := typed_records (fun _ => ()) capitals printablePage_coded true
    horsesServer_sends opened 4
  refine ⟨rows, records, _, opened, same, each, ?_⟩
  rw [← each.length_eq, ← three, same, List.length_map]

/-- A full batch and an incomplete one. -/
theorem typed_batches_horse : ∃ (rows : QueryRows Unit) (domains : List DomainEnvelope)
    (first second : List DomainEnvelope),
    queryStoredRaw racesWithoutDeletions horsesServer = .ok rows ∧
      Batched 2 domains false [first, second] ∧ first.length = 2 ∧ second.length = 1 := by
  have capitals : KeepsCapitals plainText := fun _ _ => rfl
  obtain ⟨rows, opened, three, calm⟩ := horsesServer_rows
  have two : (0 : Int) < 2 := by decide
  obtain ⟨records, domains, same, each, batched, -⟩ := typed_batches (fun _ => ()) capitals
    printablePage_coded true horsesServer_sends opened (fun _ => ()) two 2
  have counted : domains.length = 3 := by
    rw [← each.length_eq, ← three, ← List.length_map (f := storedRow printablePage)]
    exact (congrArg List.length same).symm
  have calmly : QueryRows.iterator.raised (2 * (2 : Int).toNat) rows = none := calm
  rw [calmly, Option.isSome_none] at batched
  generalize AsyncIterator.values _ _ _ = batches at batched
  obtain ⟨lost, joined, -, nothing⟩ := batched.joined
  rw [nothing rfl, List.append_nil] at joined
  have joinedLength := congrArg List.length joined
  rw [counted] at joinedLength
  rcases batches with _ | ⟨first, _ | ⟨second, rest⟩⟩
  · simp at joinedLength
  · have small := (batched.sized first (by simp)).2
    simp at joinedLength
    omega
  · have whole := batched.full first (by simp)
    have some := List.length_pos_of_ne_nil (batched.sized second (by simp)).1
    rw [List.flatten_cons, List.flatten_cons, List.length_append, List.length_append]
      at joinedLength
    cases rest with
    | nil =>
        rw [List.flatten_nil, List.length_nil] at joinedLength
        exact ⟨rows, domains, first, second, opened, batched, whole, by omega⟩
    | cons third rest =>
        have more := List.length_pos_of_ne_nil (batched.sized third (by simp)).1
        rw [List.flatten_cons, List.length_append] at joinedLength
        omega

end JVLinkServer.Client
