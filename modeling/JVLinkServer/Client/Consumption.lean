import JVLinkServer.Client.StoredQuery

namespace JVLinkServer.Client

open AsyncGenerators

/-! # Rows up to the limit

What `counted_rows` and `iterate_rows` do with the rows of one response.
-/

variable {ε : Type}

/-- The number of rows that the limit lets through. -/
def share (remaining : Option Int) (rows : List Json) : Nat :=
  match remaining with
  | some count => min count.toNat rows.length
  | none => rows.length

/-- It lets no more rows through than these. -/
def limitHit (remaining : Option Int) (rows : List Json) : Bool :=
  match remaining with
  | some count => count.toNat ≤ rows.length
  | none => false

section Share

variable {tally : Tally} {limit : Option Int} {rows : List Json}

theorem share_le_length (limit : Option Int) : share limit rows ≤ rows.length := by
  cases limit with
  | none => exact Nat.le_refl _
  | some count => exact Nat.min_le_right _ _

theorem room_of_lt_share {taken : Nat} (remaining : tally.remaining = limit.map (· - (taken : Int)))
    (below : taken < share limit rows) : tally.limitReached = false := by
  cases limit with
  | none => simp [Tally.limitReached, remaining]
  | some count =>
      have under : taken < count.toNat := Nat.lt_of_lt_of_le below (Nat.min_le_left _ _)
      simp only [Tally.limitReached, remaining, Option.map_some, decide_eq_false_iff_not]
      omega

theorem reached_at_share (hit : limitHit limit rows = true)
    (remaining : tally.remaining = limit.map (· - (share limit rows : Int))) :
    tally.limitReached = true := by
  cases limit with
  | none => simp [limitHit] at hit
  | some count =>
      have most : count.toNat ≤ rows.length := by simpa [limitHit] using hit
      simp only [Tally.limitReached, remaining, Option.map_some, share, decide_eq_true_eq]
      omega

theorem share_of_room (room : limitHit limit rows = false) : share limit rows = rows.length := by
  cases limit with
  | none => rfl
  | some count =>
      have more : ¬ count.toNat ≤ rows.length := by simpa [limitHit] using room
      simp only [share]
      omega

theorem room_at_end (room : limitHit limit rows = false)
    (remaining : tally.remaining = limit.map (· - (rows.length : Int))) :
    tally.limitReached = false := by
  cases limit with
  | none => simp [Tally.limitReached, remaining]
  | some count =>
      have more : ¬ count.toNat ≤ rows.length := by simpa [limitHit] using room
      simp only [Tally.limitReached, remaining, Option.map_some, decide_eq_false_iff_not]
      omega

end Share

/-! ## Calls -/

/-- Where a generator over rows stands before it ends: neither was asked for a row yet, or
both are at a `yield`. -/
def Paused (excludeDeletions : Bool) (frame : Frame) (rows : RowStream ε) : Prop :=
  (frame = .created ∧ rows.1 = .created ∧ rows.2.1 = .created) ∨
    (frame = .suspended ∧ rows.Reading excludeDeletions)

section Limited

variable {excludeDeletions : Bool} {onZero onExhausted atLast : Tally → Tally}
  {frame : Frame} {tally : Tally} {rows : RowStream ε}

theorem Paused.live (paused : Paused excludeDeletions frame rows) :
    frame ≠ .finished ∧ rows.Live excludeDeletions := by
  rcases paused with ⟨created, filter, generator⟩ | ⟨suspended, reading⟩
  · exact ⟨by simp [created], by simp [generator], by simp [filter]⟩
  · exact ⟨by simp [suspended], reading.live⟩

/-- Closing leaves a response open that was not asked for a row, and one that is
filtered. -/
theorem Paused.aclose (paused : Paused excludeDeletions frame rows) :
    ((records excludeDeletions).aclose rows).response =
      { rows.response with
        closed := rows.response.closed || (frame == .suspended && !excludeDeletions) } := by
  rcases paused with ⟨created, filter, generator⟩ | ⟨suspended, reading⟩
  · have apart : (Frame.created == Frame.suspended) = false := rfl
    simp [records_aclose_untouched generator fun _ => filter, created, apart]
  · rw [records_aclose_reading reading]
    simp [suspended]

variable (onZero onExhausted atLast)

/-- Below the limit a row is passed on. -/
theorem limitedRows_row (paused : Paused excludeDeletions frame rows)
    (room : tally.limitReached = false) {row : Json} {more : List Json}
    (left : keptRows excludeDeletions rows.response.rows = row :: more) :
    ∃ after,
      (limitedRows onZero onExhausted atLast (records excludeDeletions)).anext
        (frame, (tally, rows)) = (.yields row, (.suspended, (tally.count, after))) ∧
      after.Reading excludeDeletions ∧
      after.response = { rows.response with
        rows := readPast excludeDeletions rows.response.rows } := by
  obtain ⟨live, reads⟩ := paused.live
  obtain ⟨after, read, rest⟩ := records_row reads left
  refine ⟨after, ?_, rest⟩
  cases frame with
  | finished => exact absurd rfl live
  | _ => simp [limitedRows, room, read, finallyDo, settle]

/-- The variables when the limit stops a generator in this frame. -/
def stopTally (frame : Frame) (tally : Tally) : Tally :=
  if frame = .created then onZero tally else tally

theorem limitedRows_limit (paused : Paused excludeDeletions frame rows)
    (reached : tally.limitReached = true) :
    (limitedRows onZero onExhausted atLast (records excludeDeletions)).anext
      (frame, (tally, rows)) =
        (.ends, (.finished, (atLast (stopTally onZero frame tally),
          (records excludeDeletions).aclose rows))) := by
  cases frame with
  | finished => exact absurd rfl paused.live.1
  | _ => simp [limitedRows, reached, finallyDo, settle, stopTally]

/-- The variables when the rows end. -/
def endTally (failure : Option ε) (tally : Tally) : Tally :=
  match failure with
  | none => onExhausted tally
  | some _ => tally

theorem limitedRows_end (paused : Paused excludeDeletions frame rows)
    (room : tally.limitReached = false)
    (left : keptRows excludeDeletions rows.response.rows = []) :
    ∃ after,
      (limitedRows onZero onExhausted atLast (records excludeDeletions)).anext
        (frame, (tally, rows)) =
          (rows.response.ending, (.finished,
            (atLast (endTally onExhausted rows.response.failure tally), after))) ∧
      after.response = { rows.response with rows := [], closed := true } := by
  obtain ⟨live, reads⟩ := paused.live
  obtain ⟨after, read, ended, response⟩ := records_end reads left
  refine ⟨after, ?_, response⟩
  have closed := records_aclose_ended ended
  cases frame with
  | finished => exact absurd rfl live
  | _ =>
      cases raised : rows.response.failure <;>
        simp [limitedRows, room, read, finallyDo, settle, Response.ending, raised, endTally,
          closed]

end Limited

/-! ## Runs -/

/-- The frame of a generator after some rows. -/
def frameAfter : (taken : Nat) → Frame
  | 0 => .created
  | _ + 1 => .suspended

/-- The response of an answer after some of its rows have come out. -/
def Answer.responseAfter (excludeDeletions : Bool) (answer : Answer ε) (taken : Nat) :
    Response ε where
  sent := answer.rows
  rows := unreadAfter excludeDeletions taken answer.rows
  failure := answer.failure
  closed := answer.noData

theorem keptRows_responseAfter {excludeDeletions : Bool} {answer : Answer ε} {taken : Nat} :
    keptRows excludeDeletions (answer.responseAfter excludeDeletions taken).rows =
      (keptRows excludeDeletions answer.rows).drop taken :=
  keptRows_unreadAfter taken answer.rows

end JVLinkServer.Client
