import JVLinkServer.Client.QueryRuns

namespace JVLinkServer.Client

open AsyncGenerators

/-! # The records of a query

The outermost iterators, and what they leave behind when their consumer stops.
-/

variable {ε β : Type}

section Iterators

variable (python : PythonStr) (includeRaw : Bool)

/-- The records of `query_stored_raw` and `query_realtime_raw`. -/
def rawRecords : AsyncIterator (Frame × QueryRows ε) ε RecordEnvelope :=
  wireRecordEnvelopes python includeRaw QueryRows.iterator

/-- The records of `query_stored` and `query_realtime`. -/
def domainRecords (decodeEnvelope : RecordEnvelope → Except ε β) :
    AsyncIterator (Frame × (Frame × QueryRows ε)) ε β :=
  decodeRecordEnvelopes decodeEnvelope (rawRecords python includeRaw)

end Iterators

/-- What a query leaves behind. -/
def QueryRows.remains (rows : QueryRows ε) :
    List (String × Response ε) × List (Response ε) × Option StoredQueryMeta :=
  (rows.streams, rows.responses, rows.metadata?)

section Outermost

variable (python : PythonStr) (includeRaw : Bool) {rows : QueryRows ε}
  (untouched : (QueryRows.iterator.aclose rows).remains = rows.remains)
include untouched

theorem rawRecords_stopAfter (count : Nat) :
    ((rawRecords python includeRaw).stopAfter count (.created, rows)).2.remains =
      (QueryRows.iterator.stopAfter count rows).remains := by
  cases count with
  | zero => exact untouched.symm
  | succ count =>
      have live : Frame.created ≠ .finished := by simp
      rw [rawRecords, wireRecordEnvelopes,
        stopAfter_forwarding live (count + 1) (.inr (Nat.succ_pos count)),
        stopAfter_forwardedPulls QueryRows.iterator_settles]
      have passes : Raises (fun row => (.ok (toEnvelope python includeRaw row) : Except ε _)) =
          fun _ => false := rfl
      rw [passes, pullsUntil_total]

theorem domainRecords_stopAfter (decodeEnvelope : RecordEnvelope → Except ε β) (count : Nat) :
    ((domainRecords python includeRaw decodeEnvelope).stopAfter count
        (.created, (.created, rows))).2.2.remains =
      (QueryRows.iterator.stopAfter
        (pullsUntil (Raises decodeEnvelope)
          ((QueryRows.iterator.values count rows).map (toEnvelope python includeRaw)) count)
        rows).remains := by
  cases count with
  | zero => exact untouched.symm
  | succ count =>
      have live : Frame.created ≠ .finished := by simp
      have settles : (rawRecords (ε := ε) python includeRaw).Settles := generator_settles
      have values : (rawRecords python includeRaw).values (count + 1) (.created, rows) =
          (QueryRows.iterator.values (count + 1) rows).map (toEnvelope python includeRaw) :=
        (forwarding_runs QueryRows.iterator_settles (fun _ => rfl) live (count + 1)).1
      rw [domainRecords, decodeRecordEnvelopes,
        stopAfter_forwarding live (count + 1) (.inr (Nat.succ_pos count)),
        stopAfter_forwardedPulls settles, rawRecords_stopAfter python includeRaw untouched,
        ← values]

end Outermost

section Stored

variable {arguments : StoredArguments} {transport : Transport ε} {rows : QueryRows ε}

/-- Closing before the first call changes nothing that remains. -/
theorem Opens.untouched (opens : Opens arguments transport rows) :
    (QueryRows.iterator.aclose rows).remains = rows.remains := by
  cases opens with
  | nothing => rfl
  | @single request answer counted alone spec opening answers created =>
      obtain ⟨frame, state⟩ := counted
      obtain rfl : frame = .created := created
      rfl
  | @fanout pending request answer combined fans opening answers created =>
      obtain ⟨frame, state⟩ := combined
      obtain rfl : frame = .created := created
      rfl

/-- The calls that the typed records make of the generators below the envelopes: a record
that does not decode ends them. -/
def StoredArguments.typedCalls (arguments : StoredArguments) (transport : Transport ε)
    (python : PythonStr) (includeRaw : Bool) (decodeEnvelope : RecordEnvelope → Except ε β)
    (count : Nat) : Nat :=
  match arguments.standing? transport count with
  | some standing =>
      pullsUntil (Raises decodeEnvelope)
        ((standing.yielded arguments.excludeDeletions).map (toEnvelope python includeRaw)) count
  | none => count

variable (opens : Opens arguments transport rows) (python : PythonStr) (includeRaw : Bool)
include opens

theorem Opens.typedCalls (decodeEnvelope : RecordEnvelope → Except ε β) (count : Nat) :
    pullsUntil (Raises decodeEnvelope)
        ((QueryRows.iterator.values count rows).map (toEnvelope python includeRaw)) count =
      arguments.typedCalls transport python includeRaw decodeEnvelope count := by
  rw [StoredArguments.typedCalls]
  rcases opens.standing? count with ⟨nowhere, metadata, rfl, -⟩ | ⟨standing, stands, -, values⟩
  · have ended : QueryRows.iterator.anext (.none metadata : QueryRows ε) =
        (.ends, .none metadata) := rfl
    rw [nowhere, AsyncIterator.values_ended ended]
    rfl
  · rw [stands, values]

theorem Opens.raw_remains (count : Nat) :
    ((rawRecords python includeRaw).stopAfter count (.created, rows)).2.remains =
      (QueryRows.iterator.stopAfter count rows).remains :=
  rawRecords_stopAfter python includeRaw opens.untouched count

theorem Opens.domain_remains (decodeEnvelope : RecordEnvelope → Except ε β) (count : Nat) :
    ((domainRecords python includeRaw decodeEnvelope).stopAfter count
        (.created, (.created, rows))).2.2.remains =
      (QueryRows.iterator.stopAfter
        (arguments.typedCalls transport python includeRaw decodeEnvelope count) rows).remains := by
  rw [domainRecords_stopAfter python includeRaw opens.untouched,
    opens.typedCalls python includeRaw decodeEnvelope]

end Stored

end JVLinkServer.Client
