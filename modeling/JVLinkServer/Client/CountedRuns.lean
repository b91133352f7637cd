import JVLinkServer.Client.Standing

namespace JVLinkServer.Client

open AsyncGenerators

/-! # Runs of `counted_rows` -/

variable {ε : Type}

/-- The frame, the variables and the rows of `counted_rows` at a standing. -/
structure CountedStands (arguments : StoredArguments) (points : List (String × Option Bytes))
    (standing : Standing ε) (state : Frame × (Tally × RowStream ε)) : Prop where
  tally : state.2.1.Stands arguments.limit points arguments.excludeDeletions standing
  response : state.2.2.response = standing.response arguments.excludeDeletions
  going : standing.ended = none → state.1 = frameAfter standing.taken ∧
    state.2.1.streamExhausted = false ∧ Paused arguments.excludeDeletions state.1 state.2.2
  finished : standing.ended ≠ none → state.1 = .finished

/-- How the rows of an answer end. -/
def endStop (answer : Answer ε) : Stop ε :=
  match answer.failure with
  | none => .exhausted
  | some exception => .failed exception

section Steps

variable {arguments : StoredArguments} {points : List (String × Option Bytes)}
  {request : StoredRequest} {answer : Answer ε} {taken : Nat} {frame : Frame} {tally : Tally}
  {rows : RowStream ε}
  (stands : CountedStands arguments points { request, answer, taken } (frame, (tally, rows)))
include stands

theorem CountedStands.unread :
    keptRows arguments.excludeDeletions rows.response.rows =
      (keptRows arguments.excludeDeletions answer.rows).drop taken := by
  have response : rows.response = answer.responseAfter arguments.excludeDeletions taken :=
    stands.response
  rw [response, keptRows_responseAfter]

theorem CountedStands.left
    (within : taken ≤ (keptRows arguments.excludeDeletions answer.rows).length) :
    tally.remaining = arguments.limit.map (· - (taken : Int)) := by
  simpa using stands.tally.left within

/-- A row of the response. -/
theorem CountedStands.row (inside : taken < share arguments.limit
      (keptRows arguments.excludeDeletions answer.rows)) :
    ∃ row after,
      (countedRows (records arguments.excludeDeletions)).anext (frame, (tally, rows)) =
        (.yields row, (.suspended, after)) ∧
      (keptRows arguments.excludeDeletions answer.rows)[taken]? = some row ∧
      CountedStands arguments points { request, answer, taken := taken + 1 }
        (.suspended, after) := by
  have shorter : taken < (keptRows arguments.excludeDeletions answer.rows).length :=
    Nat.lt_of_lt_of_le inside (share_le_length _)
  obtain ⟨live, unexhausted, paused⟩ := stands.going rfl
  have room := room_of_lt_share (stands.left (Nat.le_of_lt shorter)) inside
  have left := stands.unread.trans (List.drop_eq_getElem_cons shorter)
  obtain ⟨after, pulled, reading, response⟩ :=
    limitedRows_row .exhaust .exhaust .complete paused room left
  refine ⟨_, (tally.count, after), pulled, List.getElem?_eq_getElem shorter, ?_⟩
  exact
    { tally := stands.tally.count shorter
      response := by
        have before : rows.response = answer.responseAfter _ taken := stands.response
        rw [response, before]
        simp only [Standing.response, Answer.responseAfter, unreadAfter_succ]
      going := fun _ => ⟨rfl, unexhausted, .inr ⟨rfl, reading⟩⟩
      finished := fun ended => absurd rfl ended }

/-- The limit stops the query. -/
theorem CountedStands.limit
    (hit : limitHit arguments.limit (keptRows arguments.excludeDeletions answer.rows) = true)
    (all : taken = share arguments.limit (keptRows arguments.excludeDeletions answer.rows)) :
    ∃ after,
      (countedRows (records arguments.excludeDeletions)).anext (frame, (tally, rows)) =
        (.ends, (.finished, after)) ∧
      CountedStands arguments points { request, answer, taken, ended := some .limit }
        (.finished, after) := by
  obtain ⟨live, unexhausted, paused⟩ := stands.going rfl
  have remaining := stands.left (all ▸ share_le_length _)
  have reached : tally.limitReached = true := reached_at_share hit (all ▸ remaining)
  have pulled := limitedRows_limit .exhaust .exhaust .complete paused reached
  refine ⟨_, pulled, ?_⟩
  obtain ⟨exhausted, stopped⟩ : ∃ exhausted,
      stopTally .exhaust frame tally = { tally with streamExhausted := exhausted } := by
    unfold stopTally
    split
    · exact ⟨true, rfl⟩
    · exact ⟨tally.streamExhausted, rfl⟩
  dsimp only at pulled ⊢
  rw [stopped]
  have completes : (exhausted || tally.limitReached) = Stop.limit.completes (ε := ε) := by
    rw [reached, Bool.or_true]
    rfl
  exact
    { tally := stands.tally.stop completes exhausted
      response := by
        have before : rows.response = answer.responseAfter _ taken := stands.response
        have closed := paused.aclose
        dsimp only at closed live
        rw [before, live] at closed
        exact closed
      going := fun going => nomatch going
      finished := fun _ => rfl }

section Room

variable
  (room : limitHit arguments.limit (keptRows arguments.excludeDeletions answer.rows) = false)
  (all : taken = (keptRows arguments.excludeDeletions answer.rows).length)
include room all

/-- The rows of the response end. -/
theorem CountedStands.ends :
    ∃ pulled after,
      (countedRows (records arguments.excludeDeletions)).anext (frame, (tally, rows)) =
        (pulled, (.finished, after)) ∧
      pulled.isYield = false ∧
      CountedStands arguments points { request, answer, taken, ended := some (endStop answer) }
        (.finished, after) := by
  obtain ⟨live, unexhausted, paused⟩ := stands.going rfl
  have below : tally.limitReached = false := room_at_end room (all ▸ stands.left (Nat.le_of_eq all))
  have left := stands.unread
  rw [all, List.drop_length] at left
  obtain ⟨after, pulled, response⟩ := limitedRows_end .exhaust .exhaust .complete paused below left
  have before : rows.response = answer.responseAfter _ taken := stands.response
  dsimp only at pulled response
  rw [before] at pulled response
  refine ⟨_, _, pulled, ?_, ?_⟩
  · cases failure : answer.failure <;>
      simp [Response.ending, Answer.responseAfter, failure, Pulled.isYield]
  cases failure : answer.failure with
  | none =>
      simp only [Answer.responseAfter, failure, endTally, endStop] at response ⊢
      exact
        { tally := stands.tally.stop rfl true
          response := response.trans (by simp [Standing.response, failure])
          going := fun going => by cases going
          finished := fun _ => rfl }
  | some exception =>
      simp only [Answer.responseAfter, failure, endTally, endStop] at response ⊢
      have completes : (tally.streamExhausted || tally.limitReached) =
          (Stop.failed exception).completes := by
        dsimp only at unexhausted
        rw [unexhausted, below]
        rfl
      exact
        { tally := stands.tally.stop completes tally.streamExhausted
          response := response.trans (by simp [Standing.response, failure])
          going := fun going => by cases going
          finished := fun _ => rfl }

end Room

end Steps

section Runs

variable {arguments : StoredArguments} (transport : Transport ε)
  {points : List (String × Option Bytes)} {request : StoredRequest} {answer : Answer ε}
  {state : Frame × (Tally × RowStream ε)}
  (stands : CountedStands arguments points { request, answer, taken := 0 } state)
include stands

theorem CountedStands.within {count : Nat}
    (most : count ≤ share arguments.limit (keptRows arguments.excludeDeletions answer.rows)) :
    CountedStands arguments points { request, answer, taken := count }
      ((countedRows (records arguments.excludeDeletions)).pull count state) ∧
    (countedRows (records arguments.excludeDeletions)).values count state =
      (keptRows arguments.excludeDeletions answer.rows).take count := by
  induction count with
  | zero => exact ⟨stands, rfl⟩
  | succ count ih =>
      obtain ⟨before, values⟩ := ih (Nat.le_of_succ_le most)
      obtain ⟨row, after, called, kept, standsAfter⟩ := before.row most
      refine ⟨?_, ?_⟩
      · rw [AsyncIterator.pull_succ_last, called]
        exact standsAfter
      · rw [AsyncIterator.values_add, values, List.take_add_one, kept, AsyncIterator.values, called]
        rfl

/-- A response in which the query ends. -/
theorem CountedStands.ran {taken : Nat} (more : Nat)
    (most : taken ≤ share arguments.limit (keptRows arguments.excludeDeletions answer.rows))
    {stop : Stop ε}
    (ends : ∀ before,
      CountedStands arguments points { request, answer, taken } before →
      ∃ pulled after,
        (countedRows (records arguments.excludeDeletions)).anext before =
          (pulled, (.finished, after)) ∧
        pulled.isYield = false ∧
        CountedStands arguments points { request, answer, taken, ended := some stop }
          (.finished, after)) :
    CountedStands arguments points { request, answer, taken, ended := some stop }
      ((countedRows (records arguments.excludeDeletions)).pull (taken + more + 1) state) ∧
    Standing.yielded arguments.excludeDeletions
        { request, answer, taken, ended := some stop } =
      (countedRows (records arguments.excludeDeletions)).values (taken + more + 1) state := by
  obtain ⟨before, values⟩ := stands.within most
  obtain ⟨pulled, after, called, stops, standsAfter⟩ := ends _ before
  obtain ⟨pulledAfter, valuesAfter, -⟩ := generator_stopped called stops more
  rw [Nat.add_assoc, AsyncIterator.pull_add, AsyncIterator.values_add, values]
  exact ⟨pulledAfter ▸ standsAfter, by
    rw [countedRows, limitedRows] at *
    rw [valuesAfter, List.append_nil]
    rfl⟩

theorem CountedStands.run (count : Nat) :
    CountedStands arguments points
      (standing arguments transport [] arguments.limit request answer count)
      ((countedRows (records arguments.excludeDeletions)).pull count state) ∧
    (standing arguments transport [] arguments.limit request answer count).yielded
        arguments.excludeDeletions =
      (countedRows (records arguments.excludeDeletions)).values count state := by
  rw [standing]
  by_cases most : count ≤ share arguments.limit (keptRows arguments.excludeDeletions answer.rows)
  · obtain ⟨after, values⟩ := stands.within most
    simp only [if_pos most]
    exact ⟨after, by rw [values]; rfl⟩
  · obtain ⟨more, rfl⟩ := Nat.exists_eq_add_of_lt (Nat.lt_of_not_le most)
    simp only [if_neg most]
    cases hit : limitHit arguments.limit (keptRows arguments.excludeDeletions answer.rows) with
    | true =>
        refine stands.ran more (Nat.le_refl _) fun before standsBefore => ?_
        obtain ⟨after, called, standsAfter⟩ := standsBefore.limit hit rfl
        exact ⟨_, after, called, rfl, standsAfter⟩
    | false =>
        rw [share_of_room hit]
        have whole : (keptRows arguments.excludeDeletions answer.rows).length ≤
            share arguments.limit (keptRows arguments.excludeDeletions answer.rows) :=
          Nat.le_of_eq (share_of_room hit).symm
        have ran := stands.ran more whole fun before standsBefore =>
          standsBefore.ends hit rfl
        cases failure : answer.failure <;> simpa [endStop, failure] using ran

end Runs

end JVLinkServer.Client
