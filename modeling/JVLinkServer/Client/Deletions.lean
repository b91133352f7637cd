import JVLinkServer.Client.RowStreams
import JVLinkServer.JsonRoundTrip
import JVLinkServer.Records.RecordParser

namespace JVLinkServer.Client

open AsyncGenerators Records

/-! # Leaving out the deletions

`filtered` looks for the code of a deletion in the data of a row.  The rows of unknown
types have no data.
-/

section Values

variable {ε : Type} {excludeDeletions : Bool} {stream : RowStream ε}

/-- The rows of a stream, read one after the other. -/
theorem records_values (live : stream.Live excludeDeletions) (count : Nat) :
    (records excludeDeletions).values count stream =
      (keptRows excludeDeletions stream.response.rows).take count := by
  induction count generalizing stream with
  | zero => rfl
  | succ count ih =>
      cases left : keptRows excludeDeletions stream.response.rows with
      | nil =>
          obtain ⟨after, called, ended, -⟩ := records_end live left
          have rest : (records excludeDeletions).values count after = [] :=
            AsyncIterator.values_ended (records_anext_ended ended) count
          rw [AsyncIterator.values, called]
          unfold Response.ending
          cases stream.response.failure <;> simpa using rest
      | cons row more =>
          obtain ⟨after, called, reading, response⟩ := records_row live left
          have rest := ih reading.live
          rw [response, keptRows_readPast, left] at rest
          rw [AsyncIterator.values, called]
          simpa using rest

/-- All the rows that a query gives of an answer. -/
def yieldedRows (excludeDeletions : Bool) (answer : Answer ε) : List Json :=
  (records excludeDeletions).values (answer.rows.length + 1) answer.stream

theorem yieldedRows_eq (excludeDeletions : Bool) (answer : Answer ε) :
    yieldedRows excludeDeletions answer = keptRows excludeDeletions answer.rows := by
  have shorter : (keptRows excludeDeletions answer.rows).length ≤ answer.rows.length + 1 := by
    cases excludeDeletions with
    | false => exact Nat.le_succ _
    | true => exact Nat.le_succ_of_le (List.length_filter_le _ _)
  have live : answer.stream.Live excludeDeletions := answer.live
  have values := records_values live (answer.rows.length + 1)
  exact values.trans (List.take_of_length_le shorter)

end Values

/-- The data of the row say that it deletes a record. -/
def isDeletion (row : Json) : Bool :=
  match (row.member? "data").bind (Json.member? "data_code") with
  | some (.string code) => code == utf8 "0"
  | _ => false

theorem member_data (row : RecordRow) : row.json.member? "data" = some row.data := by
  simp [RecordRow.json, Worker.recordJson, Json.member?_record]

theorem isDeletion_unknown {row : RecordRow} (unknown : row.isKnown = false) :
    isDeletion row.json = false := by
  have none : row.data = .null := row.unknown (by simpa [RecordRow.isKnown] using unknown)
  rw [isDeletion, member_data, none]
  rfl

/-- The filter keeps what is no deletion, and knows the type. -/
theorem keepsRecord_row (row : RecordRow) :
    keepsRecord row.json = (row.isKnown && !isDeletion row.json) := by
  unfold keepsRecord isDeletion
  rw [member_data]
  dsimp only [Option.bind_some]
  cases known : row.isKnown with
  | true =>
      have object : row.data.isObject = true := row.known (by simpa [RecordRow.isKnown] using known)
      rw [object, Bool.true_and, Bool.true_and]
      cases (row.data.member? "data_code") with
      | none => rfl
      | some code => cases code <;> rfl
  | false =>
      have none : row.data = .null := row.unknown (by simpa [RecordRow.isKnown] using known)
      rw [none]
      rfl

variable {ε : Type}

/-- An answer with the rows of a worker. -/
def workerAnswer (metadata : Json) (rows : List RecordRow) (failure : Option ε) : Answer ε where
  metadata := metadata
  rows := rows.map RecordRow.json
  failure := failure

theorem filter_eq_filter_iff {α : Type} {keep other : α → Bool} {values : List α}
    (weaker : ∀ a ∈ values, keep a → other a) :
    values.filter keep = values.filter other ↔ ∀ a ∈ values, keep a = other a := by
  constructor
  · intro same a member
    cases kept : other a with
    | false => exact Bool.eq_false_iff.mpr fun keeps => by simp [weaker a member keeps] at kept
    | true =>
        have left : a ∈ values.filter keep := same ▸ List.mem_filter.mpr ⟨member, kept⟩
        exact (List.mem_filter.mp left).2
  · exact List.filter_congr

theorem filter_agrees_iff (rows : List RecordRow) :
    keptRows true (rows.map RecordRow.json) =
        (keptRows false (rows.map RecordRow.json)).filter (!isDeletion ·) ↔
      ∀ row ∈ rows, row.isKnown = true := by
  have weaker : ∀ json ∈ rows.map RecordRow.json, keepsRecord json → !isDeletion json := by
    intro json member keeps
    obtain ⟨row, -, rfl⟩ := List.mem_map.mp member
    rw [keepsRecord_row, Bool.and_eq_true] at keeps
    exact keeps.2
  have agrees : ∀ row : RecordRow,
      keepsRecord row.json = !isDeletion row.json ↔ row.isKnown = true := by
    intro row
    rw [keepsRecord_row]
    cases known : row.isKnown with
    | true => simp
    | false => simp [isDeletion_unknown known]
  apply (filter_eq_filter_iff weaker).trans
  simp only [List.mem_map, forall_exists_index, and_imp, forall_apply_eq_imp_iff₂, agrees]

/-- The flag leaves out exactly the deletions when every row is of a known type. -/
theorem excludes_only_deletions_iff (metadata : Json) (rows : List RecordRow)
    (failure : Option ε) :
    yieldedRows true (workerAnswer metadata rows failure) =
        (yieldedRows false (workerAnswer metadata rows failure)).filter (!isDeletion ·) ↔
      ∀ row ∈ rows, row.isKnown = true := by
  rw [yieldedRows_eq, yieldedRows_eq]
  exact filter_agrees_iff rows

/-- A record of a type that the parser does not know. -/
def unknownRow : RecordRow := rowOf (fun _ _ => []) (utf8 "XX1")

theorem unknown_type_dropped :
    ¬ ∀ rows : List RecordRow,
      yieldedRows true (workerAnswer .null rows (none : Option Unit)) =
        (yieldedRows false (workerAnswer .null rows (none : Option Unit))).filter
          (!isDeletion ·) := by
  intro exact
  have agrees := exact [unknownRow]
  rw [yieldedRows_eq, yieldedRows_eq] at agrees
  have known := (filter_agrees_iff [unknownRow]).mp agrees unknownRow List.mem_cons_self
  exact absurd known (by decide +kernel)

end JVLinkServer.Client
