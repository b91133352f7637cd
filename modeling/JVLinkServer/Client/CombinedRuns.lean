import JVLinkServer.Client.Standing

namespace JVLinkServer.Client

open AsyncGenerators

/-! # Runs of `combined_rows` -/

variable {ε : Type}

/-- The frame and the variables of `combined_rows` at a standing. -/
structure Fanout.Stands (arguments : StoredArguments) (points : List (String × Option Bytes))
    (standing : Standing ε) (state : Frame × Fanout ε) : Prop where
  tally : state.2.tally.Stands arguments.limit points arguments.excludeDeletions standing
  requests : state.2.requests = standing.requests
  done : state.2.left.map (fun entry => (entry.1, entry.2.response)) = standing.doneResponses
  spec : state.2.spec = standing.request.dataspec
  response : state.2.rows.response = standing.response arguments.excludeDeletions
  going : standing.ended = none → state.1 ≠ .finished ∧ state.2.allSpecsProcessed = false ∧
    state.2.iterating = frameAfter standing.taken ∧
    Paused arguments.excludeDeletions state.2.iterating state.2.rows
  finished : standing.ended ≠ none → state.1 = .finished

section Advance

variable {arguments : StoredArguments} (transport : Transport ε) {state after : Fanout ε}
  {spec : String} {exception : ε}

theorem Fanout.advance_yields (pending : List String) {row : Json}
    (called : state.anextRow arguments.excludeDeletions = (.yields row, after)) :
    advance arguments transport pending state = (.yields row, { after with pending }) := by
  unfold advance
  simp only [called]

theorem Fanout.advance_raises (pending : List String)
    (called : state.anextRow arguments.excludeDeletions = (.raises exception, after)) :
    advance arguments transport pending state = (.raises exception, { after with pending }) := by
  unfold advance
  simp only [called]

section Ends

variable (called : state.anextRow arguments.excludeDeletions = (.ends, after))
include called

theorem Fanout.advance_limit (pending : List String)
    (reached : after.tally.limitReached = true) :
    ∃ processed, advance arguments transport pending state =
      (.ends, { after with pending, allSpecsProcessed := processed }) := by
  unfold advance
  simp only [called, reached, Bool.and_true]
  cases after.isFirst with
  | true => exact ⟨after.allSpecsProcessed, rfl⟩
  | false =>
      cases pending with
      | nil => exact ⟨true, rfl⟩
      | cons spec rest => exact ⟨after.allSpecsProcessed, rfl⟩

variable (room : after.tally.limitReached = false)
include room

theorem Fanout.advance_exhausted :
    advance arguments transport [] state =
      (.ends, { after with pending := [], allSpecsProcessed := true }) := by
  unfold advance
  simp [called, room]

theorem Fanout.advance_refused (rest : List String)
    (refuses : transport (arguments.request spec after.tally.remaining) = .error exception) :
    advance arguments transport (spec :: rest) state =
      (.raises exception,
        { after with
          pending := rest
          requests := after.requests ++ [arguments.request spec after.tally.remaining] }) := by
  unfold advance
  simp [called, room, refuses]

theorem Fanout.advance_turns (rest : List String) {answer : Answer ε}
    (answers : transport (arguments.request spec after.tally.remaining) = .ok answer) :
    advance arguments transport (spec :: rest) state =
      advance arguments transport rest
        (after.turnTo spec rest (arguments.request spec after.tally.remaining) answer) := by
  rw [advance]
  simp [called, room, answers]

end Ends

end Advance

section Steps

variable {arguments : StoredArguments} (transport : Transport ε)
  {points : List (String × Option Bytes)} {done : List (Leg ε)} {request : StoredRequest}
  {answer : Answer ε} {taken : Nat} {frame : Frame} {state : Fanout ε}

theorem combinedRows_anext (live : frame ≠ .finished) :
    (combinedRows arguments transport).anext (frame, state) =
      settle (finallyDo Fanout.complete
        (Fanout.advance arguments transport state.pending state)) := by
  cases frame with
  | finished => exact absurd rfl live
  | _ => rfl

variable (stands : Fanout.Stands arguments points { done, request, answer, taken } (frame, state))
include stands

theorem Fanout.Stands.live : frame ≠ .finished := (stands.going rfl).1

theorem Fanout.Stands.unread :
    keptRows arguments.excludeDeletions state.rows.response.rows =
      (keptRows arguments.excludeDeletions answer.rows).drop taken := by
  have response : state.rows.response = answer.responseAfter arguments.excludeDeletions taken :=
    stands.response
  rw [response, keptRows_responseAfter]

/-- A row of the leg. -/
theorem Fanout.Stands.row (inside : taken < share (leftAfter arguments.limit
      arguments.excludeDeletions done) (keptRows arguments.excludeDeletions answer.rows)) :
    ∃ row after,
      (combinedRows arguments transport).anext (frame, state) =
        (.yields row, (.suspended, after)) ∧
      (keptRows arguments.excludeDeletions answer.rows)[taken]? = some row ∧
      Fanout.Stands arguments points { done, request, answer, taken := taken + 1 }
        (.suspended, after) ∧
      after.pending = state.pending := by
  have shorter : taken < (keptRows arguments.excludeDeletions answer.rows).length :=
    Nat.lt_of_lt_of_le inside (share_le_length _)
  obtain ⟨live, unprocessed, iterating, paused⟩ := stands.going rfl
  have room := room_of_lt_share (stands.tally.left (Nat.le_of_lt shorter)) inside
  have left := stands.unread.trans (List.drop_eq_getElem_cons shorter)
  obtain ⟨rows, pulled, reading, response⟩ := limitedRows_row id id id paused room left
  have called : state.anextRow arguments.excludeDeletions =
      (.yields (keptRows arguments.excludeDeletions answer.rows)[taken],
        { state with iterating := .suspended, tally := state.tally.count, rows }) := by
    simp only [Fanout.anextRow, iterateRows, pulled]
  refine ⟨_, { state with iterating := .suspended, tally := state.tally.count, rows }, ?_,
    List.getElem?_eq_getElem shorter, ?_, rfl⟩
  · rw [combinedRows_anext transport live, Fanout.advance_yields transport state.pending called]
    rfl
  · exact
      { tally := stands.tally.count shorter
        requests := stands.requests
        done := stands.done
        spec := stands.spec
        response := by
          have before : state.rows.response = answer.responseAfter _ taken := stands.response
          rw [response, before]
          simp only [Standing.response, Answer.responseAfter, unreadAfter_succ]
        going := fun _ => ⟨by simp, unprocessed, rfl, .inr ⟨rfl, reading⟩⟩
        finished := fun ended => absurd rfl ended }

/-- The limit stops the query. -/
theorem Fanout.Stands.limit (hit : limitHit (leftAfter arguments.limit
      arguments.excludeDeletions done) (keptRows arguments.excludeDeletions answer.rows) = true)
    (all : taken = share (leftAfter arguments.limit arguments.excludeDeletions done)
      (keptRows arguments.excludeDeletions answer.rows)) :
    ∃ after,
      (combinedRows arguments transport).anext (frame, state) = (.ends, (.finished, after)) ∧
      Fanout.Stands arguments points { done, request, answer, taken, ended := some .limit }
        (.finished, after) := by
  obtain ⟨live, unprocessed, iterating, paused⟩ := stands.going rfl
  have remaining := stands.tally.left (all ▸ share_le_length _)
  have reached : state.tally.limitReached = true := reached_at_share hit (all ▸ remaining)
  have pulled := limitedRows_limit id id id paused reached
  have called : state.anextRow arguments.excludeDeletions =
      (.ends, { state with
        iterating := .finished
        rows := (records arguments.excludeDeletions).aclose state.rows }) := by
    simp only [Fanout.anextRow, iterateRows, pulled, stopTally, id, ite_self]
  obtain ⟨processed, advanced⟩ :=
    Fanout.advance_limit transport called state.pending reached
  refine ⟨_, by rw [combinedRows_anext transport live, advanced]; rfl, ?_⟩
  have completes : (processed || state.tally.limitReached) = Stop.limit.completes (ε := ε) := by
    rw [reached, Bool.or_true]
    rfl
  exact
    { tally := stands.tally.stop completes state.tally.streamExhausted
      requests := stands.requests
      done := stands.done
      spec := stands.spec
      response := by
        have before : state.rows.response = answer.responseAfter _ taken := stands.response
        have closed := paused.aclose
        rw [before, iterating] at closed
        exact closed
      going := fun going => by cases going
      finished := fun _ => rfl }

/-- What stays when the leg has been read to its end. -/
theorem Fanout.Stands.stop {processed : Bool} {requests : List StoredRequest} {rows : RowStream ε}
    {pending : List String} (stop : Stop ε)
    (response : rows.response =
        { sent := answer.rows, rows := [], failure := answer.failure, closed := true })
    (below : state.tally.limitReached = false) (completes : processed = stop.completes)
    (asked : requests = { done, request, answer, taken, ended := some stop : Standing ε }.requests)
    (apart : ∀ standing : Standing ε, standing.ended = some stop → standing.response
      arguments.excludeDeletions =
        { sent := standing.answer.rows, rows := [], failure := standing.answer.failure,
          closed := true }) :
    Fanout.Stands arguments points { done, request, answer, taken, ended := some stop }
      (.finished, Fanout.complete
        { state with
          allSpecsProcessed := processed, pending, requests, iterating := .finished, rows }) where
  tally := by
    have completes : (processed || state.tally.limitReached) = stop.completes := by
      rw [below, Bool.or_false, completes]
    exact stands.tally.stop completes state.tally.streamExhausted
  requests := asked
  done := stands.done
  spec := stands.spec
  response := by
    rw [apart _ rfl]
    exact response
  going := fun going => nomatch going
  finished := fun _ => rfl

section Room

variable (room : limitHit (leftAfter arguments.limit arguments.excludeDeletions done)
    (keptRows arguments.excludeDeletions answer.rows) = false)
  (all : taken = (keptRows arguments.excludeDeletions answer.rows).length)
include room all

/-- The rows of the leg end. -/
theorem Fanout.Stands.ends :
    ∃ rows : RowStream ε,
      state.anextRow arguments.excludeDeletions =
        ((answer.responseAfter arguments.excludeDeletions taken).ending,
          { state with iterating := .finished, rows }) ∧
      rows.response =
        { sent := answer.rows, rows := [], failure := answer.failure, closed := true } ∧
      state.tally.limitReached = false := by
  obtain ⟨-, -, -, paused⟩ := stands.going rfl
  have remaining := stands.tally.left (Nat.le_of_eq all)
  have below : state.tally.limitReached = false := room_at_end room (all ▸ remaining)
  have left := stands.unread
  rw [all, List.drop_length] at left
  obtain ⟨rows, pulled, response⟩ := limitedRows_end id id id paused below left
  have before : state.rows.response = answer.responseAfter _ taken := stands.response
  rw [before] at pulled response
  refine ⟨rows, ?_, response, below⟩
  cases raised : answer.failure <;>
    simp [Fanout.anextRow, iterateRows, pulled, endTally, Answer.responseAfter, raised]

theorem Fanout.Stands.failed {exception : ε} (failure : answer.failure = some exception) :
    ∃ after,
      (combinedRows arguments transport).anext (frame, state) =
        (.raises exception, (.finished, after)) ∧
      Fanout.Stands arguments points
        { done, request, answer, taken, ended := some (.failed exception) } (.finished, after) := by
  obtain ⟨rows, called, response, below⟩ := stands.ends room all
  have raises : (answer.responseAfter arguments.excludeDeletions taken).ending =
      .raises exception := by
    simp [Response.ending, Answer.responseAfter, failure]
  rw [raises] at called
  have advanced := Fanout.advance_raises transport state.pending called
  refine ⟨_, by rw [combinedRows_anext transport stands.live, advanced]; rfl, ?_⟩
  exact stands.stop (.failed exception) response below (stands.going rfl).2.1
    stands.requests fun standing ended => by simp [Standing.response, ended]

variable (failure : answer.failure = none)
include failure

theorem Fanout.Stands.leg_over :
    ∃ rows : RowStream ε,
      state.anextRow arguments.excludeDeletions =
        (.ends, { state with iterating := .finished, rows }) ∧
      rows.response =
        { sent := answer.rows, rows := [], failure := answer.failure, closed := true } ∧
      state.tally.limitReached = false := by
  obtain ⟨rows, called, rest⟩ := stands.ends room all
  have ends : (answer.responseAfter arguments.excludeDeletions taken).ending = .ends := by
    simp [Response.ending, Answer.responseAfter, failure]
  rw [ends] at called
  exact ⟨rows, called, rest⟩

theorem Fanout.Stands.exhausted (none : state.pending = []) :
    ∃ after,
      (combinedRows arguments transport).anext (frame, state) = (.ends, (.finished, after)) ∧
      Fanout.Stands arguments points
        { done, request, answer, taken, ended := some .exhausted } (.finished, after) := by
  obtain ⟨rows, called, response, below⟩ := stands.leg_over room all failure
  have advanced := Fanout.advance_exhausted transport called below
  refine ⟨_, by rw [combinedRows_anext transport stands.live, none, advanced]; rfl, ?_⟩
  exact stands.stop .exhausted response below rfl stands.requests
    fun standing ended => by simp [Standing.response, ended]

variable {spec : String} {rest : List String} (next : state.pending = spec :: rest)
include next

theorem Fanout.Stands.refused {exception : ε}
    (refuses : transport (arguments.request spec
      ((leftAfter arguments.limit arguments.excludeDeletions done).map (· - (taken : Int)))) =
        .error exception) :
    ∃ after,
      (combinedRows arguments transport).anext (frame, state) =
        (.raises exception, (.finished, after)) ∧
      Fanout.Stands arguments points
        { done, request, answer, taken
          ended := some (.refused (arguments.request spec
            ((leftAfter arguments.limit arguments.excludeDeletions done).map (· - (taken : Int))))
              exception) }
        (.finished, after) := by
  obtain ⟨rows, called, response, below⟩ := stands.leg_over room all failure
  rw [← stands.tally.left (Nat.le_of_eq all)] at refuses ⊢
  have advanced := Fanout.advance_refused transport called below rest refuses
  refine ⟨_, by rw [combinedRows_anext transport stands.live, next, advanced]; rfl, ?_⟩
  refine stands.stop _ response below (stands.going rfl).2.1 ?_
    fun standing ended => by simp [Standing.response, ended]
  have before : state.requests = done.map (·.1) ++ [request] := by
    simpa [Standing.requests, Standing.legs] using stands.requests
  simp [Standing.requests, Standing.legs, before]

theorem Fanout.Stands.turned {answered : Answer ε}
    (answers : transport (arguments.request spec
      ((leftAfter arguments.limit arguments.excludeDeletions done).map (· - (taken : Int)))) =
        .ok answered) :
    ∃ after,
      (combinedRows arguments transport).anext (frame, state) =
        (combinedRows arguments transport).anext (.suspended, after) ∧
      Fanout.Stands arguments points
        { done := done ++ [(request, answer)]
          request := arguments.request spec
            ((leftAfter arguments.limit arguments.excludeDeletions done).map (· - (taken : Int)))
          answer := answered, taken := 0 } (.suspended, after) ∧
      after.pending = rest := by
  obtain ⟨rows, called, response, below⟩ := stands.leg_over room all failure
  rw [← stands.tally.left (Nat.le_of_eq all)] at answers ⊢
  have advanced := Fanout.advance_turns transport called below rest answers
  refine ⟨Fanout.turnTo spec rest (arguments.request spec state.tally.remaining) answered
    { state with iterating := .finished, rows }, ?_, ?_, rfl⟩
  · have live : Frame.suspended ≠ .finished := by simp
    rw [combinedRows_anext transport stands.live, combinedRows_anext transport live, next, advanced]
    rfl
  · have read : rows.response =
        { sent := answer.rows, rows := [], failure := none, closed := true } := by
      rw [response, failure]
    have requests : state.requests = done.map (·.1) ++ [request] := by
      simpa [Standing.requests, Standing.legs] using stands.requests
    have yielded : Standing.yielded arguments.excludeDeletions
        { done := done ++ [(request, answer)]
          request := arguments.request spec state.tally.remaining
          answer := answered, taken := 0 } =
          Standing.yielded arguments.excludeDeletions { done, request, answer, taken } := by
      simp [Standing.yielded, all]
    exact
      { tally :=
          { remaining := by rw [yielded]; exact stands.tally.remaining
            streamed := by rw [yielded]; exact stands.tally.streamed
            resume := by
              have before := stands.tally.resume
              simp only [Standing.resumePoints, Standing.legs] at before
              simp [Fanout.turnTo, before, Standing.resumePoints, Standing.legs,
                StoredArguments.request]
            completed := stands.tally.completed }
        requests := by
          simp [Fanout.turnTo, requests, Standing.requests, Standing.legs]
        done := by
          have earlier := stands.done
          have spoken := stands.spec
          simp only [Standing.doneResponses] at earlier spoken
          simp [Fanout.turnTo, earlier, Standing.doneResponses, spoken, read]
        spec := rfl
        response := rfl
        going := fun _ => ⟨by simp, (stands.going rfl).2.1, rfl, .inl ⟨rfl, rfl, rfl⟩⟩
        finished := fun ended => absurd rfl ended }

end Room

end Steps

section Runs

variable {arguments : StoredArguments} (transport : Transport ε)
  {points : List (String × Option Bytes)} {done : List (Leg ε)} {request : StoredRequest}
  {answer : Answer ε} {frame : Frame} {state : Fanout ε}

theorem Fanout.Stands.within
    (stands : Fanout.Stands arguments points { done, request, answer, taken := 0 } (frame, state))
    {count : Nat} (most : count ≤ share (leftAfter arguments.limit arguments.excludeDeletions done)
      (keptRows arguments.excludeDeletions answer.rows)) :
    ∃ after,
      (combinedRows arguments transport).pull count (frame, state) =
        (if count = 0 then frame else .suspended, after) ∧
      Fanout.Stands arguments points { done, request, answer, taken := count }
        (if count = 0 then frame else .suspended, after) ∧
      after.pending = state.pending ∧
      (combinedRows arguments transport).values count (frame, state) =
        (keptRows arguments.excludeDeletions answer.rows).take count ∧
      (combinedRows arguments transport).raised count (frame, state) = none := by
  induction count with
  | zero => exact ⟨state, rfl, stands, rfl, rfl, rfl⟩
  | succ count ih =>
      obtain ⟨before, pulled, standsBefore, pending, values, raised⟩ := ih (Nat.le_of_succ_le most)
      obtain ⟨row, after, called, kept, standsAfter, same⟩ := standsBefore.row transport most
      refine ⟨after, ?_, standsAfter, same.trans pending, ?_, ?_⟩
      · rw [AsyncIterator.pull_succ_last, pulled, called]
        rfl
      · rw [AsyncIterator.values_add, values, pulled, List.take_add_one, kept,
          AsyncIterator.values, called]
        rfl
      · rw [AsyncIterator.raised_add, raised, pulled, AsyncIterator.raised, called]
        rfl

/-- Some calls lead to a standing. -/
structure Fanout.Ran (arguments : StoredArguments) (transport : Transport ε)
    (points : List (String × Option Bytes)) (earlier : List Json) (start : Frame × Fanout ε)
    (count : Nat) (final : Standing ε) : Prop where
  stands : Fanout.Stands arguments points final
    ((combinedRows arguments transport).pull count start)
  yielded : final.yielded arguments.excludeDeletions =
    earlier ++ (combinedRows arguments transport).values count start
  raised : (combinedRows arguments transport).raised count start = final.exception?
  suspended : final.ended = none → 0 < count →
    ((combinedRows arguments transport).pull count start).1 = .suspended

/-- A leg in which the query ends. -/
theorem Fanout.Stands.ran
    (stands : Fanout.Stands arguments points { done, request, answer, taken := 0 } (frame, state))
    {taken more : Nat} (most : taken ≤ share (leftAfter arguments.limit
      arguments.excludeDeletions done) (keptRows arguments.excludeDeletions answer.rows))
    {stop : Stop ε}
    (ends : ∀ frame before,
      Fanout.Stands arguments points { done, request, answer, taken } (frame, before) →
      before.pending = state.pending →
      ∃ pulled after,
        (combinedRows arguments transport).anext (frame, before) = (pulled, (.finished, after)) ∧
        pulled.isYield = false ∧ pulled.exception? = stop.exception? ∧
        Fanout.Stands arguments points { done, request, answer, taken, ended := some stop }
          (.finished, after)) :
    Fanout.Ran arguments transport points
      (done.flatMap fun leg => keptRows arguments.excludeDeletions leg.2.rows) (frame, state)
      (taken + (more + 1)) { done, request, answer, taken, ended := some stop } := by
  obtain ⟨before, pulled, standsBefore, pending, values, raised⟩ := stands.within transport most
  obtain ⟨result, after, called, stops, exception, standsAfter⟩ :=
    ends _ before standsBefore pending
  obtain ⟨pulledAfter, valuesAfter, raisedAfter⟩ := generator_stopped called stops more
  exact
    { stands := by
        rw [AsyncIterator.pull_add, pulled, combinedRows, pulledAfter]
        exact standsAfter
      yielded := by
        rw [AsyncIterator.values_add, pulled, values, combinedRows, valuesAfter, List.append_nil]
        rfl
      raised := by
        rw [AsyncIterator.raised_add, raised, pulled, combinedRows, raisedAfter, exception]
        rfl
      suspended := fun going => nomatch going }

/-- The leg that the calls reach is the last, or the next leg goes on from it. -/
theorem Fanout.Stands.run (pending : List String) {done : List (Leg ε)}
    {request : StoredRequest} {answer : Answer ε} {frame : Frame} {state : Fanout ε}
    (stands : Fanout.Stands arguments points { done, request, answer, taken := 0 } (frame, state))
    (next : state.pending = pending) (count : Nat) :
    Fanout.Ran arguments transport points
      (done.flatMap fun leg => keptRows arguments.excludeDeletions leg.2.rows) (frame, state) count
      ((standing arguments transport pending
        (leftAfter arguments.limit arguments.excludeDeletions done) request answer count).behind
          done) := by
  rw [standing.eq_def]
  by_cases most : count ≤ share (leftAfter arguments.limit arguments.excludeDeletions done)
    (keptRows arguments.excludeDeletions answer.rows)
  · obtain ⟨after, pulled, standsAfter, -, values, raised⟩ := stands.within transport most
    simp only [if_pos most, Standing.behind, List.append_nil]
    exact
      { stands := pulled ▸ standsAfter
        yielded := by rw [values]; rfl
        raised := raised
        suspended := fun _ started => by rw [pulled, if_neg (Nat.ne_of_gt started)] }
  · obtain ⟨more, rfl⟩ := Nat.exists_eq_add_of_lt (Nat.lt_of_not_le most)
    simp only [if_neg most]
    cases hit : limitHit (leftAfter arguments.limit arguments.excludeDeletions done)
        (keptRows arguments.excludeDeletions answer.rows) with
    | true =>
        simp only [if_true, Standing.behind, List.append_nil]
        refine stands.ran transport (Nat.le_refl _) fun frame before standsBefore _ => ?_
        obtain ⟨after, called, standsAfter⟩ :=
          standsBefore.limit transport hit rfl
        exact ⟨_, after, called, rfl, rfl, standsAfter⟩
    | false =>
        rw [share_of_room hit] at most ⊢
        have whole : (keptRows arguments.excludeDeletions answer.rows).length ≤ share
            (leftAfter arguments.limit arguments.excludeDeletions done)
            (keptRows arguments.excludeDeletions answer.rows) :=
          Nat.le_of_eq (share_of_room hit).symm
        cases failure : answer.failure with
        | some exception =>
            simp only [Bool.false_eq_true, if_false, Standing.behind, List.append_nil]
            refine stands.ran transport whole fun frame before standsBefore _ => ?_
            obtain ⟨after, called, standsAfter⟩ :=
              standsBefore.failed transport hit rfl failure
            exact ⟨_, after, called, rfl, rfl, standsAfter⟩
        | none =>
            cases pending with
            | nil =>
                simp only [Bool.false_eq_true, if_false, Standing.behind, List.append_nil]
                refine stands.ran transport whole fun frame before standsBefore same => ?_
                obtain ⟨after, called, standsAfter⟩ :=
                  standsBefore.exhausted transport hit rfl failure (same.trans next)
                exact ⟨_, after, called, rfl, rfl, standsAfter⟩
            | cons spec rest =>
                simp only [Bool.false_eq_true, if_false]
                cases answers : transport (arguments.request spec
                    ((leftAfter arguments.limit arguments.excludeDeletions done).map
                      (· - ((keptRows arguments.excludeDeletions answer.rows).length : Int)))) with
                | error exception =>
                    simp only [Standing.behind, List.append_nil]
                    refine stands.ran transport whole fun frame before standsBefore same => ?_
                    obtain ⟨after, called, standsAfter⟩ :=
                      standsBefore.refused transport hit rfl failure (same.trans next) answers
                    exact ⟨_, after, called, rfl, rfl, standsAfter⟩
                | ok answered =>
                    obtain ⟨before, pulled, standsBefore, same, values, raised⟩ :=
                      stands.within transport whole
                    obtain ⟨after, called, standsAfter, left⟩ :=
                      standsBefore.turned transport hit rfl failure (same.trans next) answers
                    have ran := Fanout.Stands.run rest standsAfter left (more + 1)
                    rw [leftAfter_leg] at ran
                    dsimp only at ran
                    simp only [Standing.behind_behind, Nat.add_assoc, Nat.add_sub_cancel_left]
                    have going : ∀ count, (combinedRows arguments transport).pull
                        ((keptRows arguments.excludeDeletions answer.rows).length + (count + 1))
                          (frame, state) =
                        (combinedRows arguments transport).pull (count + 1) (.suspended, after) := by
                      intro count
                      rw [AsyncIterator.pull_add, pulled, AsyncIterator.pull_succ_congr called]
                    exact
                      { stands := going more ▸ ran.stands
                        yielded := by
                          rw [ran.yielded, AsyncIterator.values_add _ _ _ (more + 1), pulled,
                            values, AsyncIterator.values_succ_congr called]
                          simp
                        raised := by
                          rw [AsyncIterator.raised_add _ _ _ (more + 1), raised, pulled,
                            AsyncIterator.raised_succ_congr called, Option.none_or, ran.raised]
                        suspended := fun ended started => by
                          rw [going]
                          exact ran.suspended ended (Nat.succ_pos more) }

end Runs

end JVLinkServer.Client
