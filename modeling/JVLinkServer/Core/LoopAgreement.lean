import JVLinkServer.Core.ObligingLink

namespace JVLinkServer.Core

open Effects

/-! # The two read loops side by side

The loop of `queryStored` gives up after ten thousand answers without a record and
asks again after a success without data.  The loop of `queryRealtime` does neither.
-/

/-- How a query ended: with these records passed on, after this many answers, and with
the code of a `JVStreamReadException` or normally. -/
structure Ending where
  delivered : List Bytes
  answers : Nat
  code : Option Int
  deriving DecidableEq, Repr

/-- `none` for a run that has not ended. -/
def ending? : EStateM.Result Exception (World Nat (List Bytes)) StreamEnd → Option Ending
  | .ok _ world => some { delivered := world.client, answers := world.env, code := none }
  | .error (.jvStreamRead code _) world =>
      some { delivered := world.client, answers := world.env, code := some code }
  | .error _ _ => none

/-- The JV-Link with these answers to `JVGets`; its state counts them. -/
def sequenceJVLink (replies : Nat → GetsReply) : JVLink Nat :=
  obligingJVLink 1 (fun answers => (replies answers, answers + 1)) fun answers => (.long 0, answers)

def startedWorld : World Nat (List Bytes) where
  wrapper := { dispatch := true, isInitialized := true }
  worker := { running := true, acceptingTasks := true }
  env := 0
  client := []

/-- Both queries end, and in the same way. -/
def LoopsAgree (replies : Nat → GetsReply) (query : StoredQuery) (dataspec key : Bytes) : Prop :=
  ∃ fuel ending,
    ending? (queryStored (sequenceJVLink replies) collectingClient query fuel startedWorld) =
      some ending ∧
    ending? (queryRealtime (sequenceJVLink replies) collectingClient dataspec key fuel
      startedWorld) = some ending

namespace ReadKind

/-- The record a stored query passes on. -/
def record? : ReadKind → Option Bytes
  | .record data => some data
  | _ => none

/-- The record a real-time query passes on. -/
def passed? : ReadKind → Option Bytes
  | .record data => some data
  | .nothing => some []
  | _ => none

/-- How a loop ends at an answer, if it does. -/
def last? : ReadKind → Option (Option Int)
  | .endOfFiles => some none
  | .failure code => some (some code)
  | _ => none

end ReadKind

section Sequence

variable (replies : Nat → GetsReply)

def recordsBefore (position : Nat) : List Bytes :=
  (List.range position).filterMap fun i => (replies i).kind.record?

def passedBefore (position : Nat) : List Bytes :=
  (List.range position).filterMap fun i => (replies i).kind.passed?

/-- The retry counter of the stored query after so many answers. -/
def idleBefore : Nat → Nat
  | 0 => 0
  | position + 1 =>
      match (replies position).kind with
      | .record _ => 0
      | _ => idleBefore position + 1

/-- The stored loop, as a function of the answers. -/
def storedReads (limit : Nat) : (fuel position : Nat) → Option Ending
  | 0, _ => none
  | fuel + 1, position =>
      if (recordsBefore replies position).length < limit ∧
          idleBefore replies position < maxRetries then
        match (replies position).kind.last? with
        | some code =>
            some { delivered := recordsBefore replies position, answers := position + 1, code }
        | none => storedReads limit fuel (position + 1)
      else
        some
          { delivered := recordsBefore replies position
            answers := position
            code :=
              if maxRetries ≤ idleBefore replies position then some jvErrorDownloadFailed else none }

def realtimeReads : (fuel position : Nat) → Option Ending
  | 0, _ => none
  | fuel + 1, position =>
      match (replies position).kind.last? with
      | some code =>
          some { delivered := passedBefore replies position, answers := position + 1, code }
      | none => realtimeReads fuel (position + 1)

variable {replies}

@[simp] theorem recordsBefore_succ (position : Nat) :
    recordsBefore replies (position + 1) =
      recordsBefore replies position ++ (replies position).kind.record?.toList := by
  rw [recordsBefore, List.range_succ, List.filterMap_append]
  cases record : (replies position).kind.record? <;> simp [recordsBefore, record]

@[simp] theorem passedBefore_succ (position : Nat) :
    passedBefore replies (position + 1) =
      passedBefore replies position ++ (replies position).kind.passed?.toList := by
  rw [passedBefore, List.range_succ, List.filterMap_append]
  cases record : (replies position).kind.passed? <;> simp [passedBefore, record]

/-! ## The loops are these functions -/

variable {query : StoredQuery} {position : Nat} {answered : List GetsReply}
  {progress : ReadProgress}

/-- The way out of a run, as `ending?` reads it. -/
def Returns (ending : Option Ending) (_ : StreamEnd) (world : World Nat (List Bytes)) : Prop :=
  ending = some { delivered := world.client, answers := world.env, code := none }

def Throws (ending : Option Ending) : Exception → World Nat (List Bytes) → Prop
  | .jvStreamRead code _, world =>
      ending = some { delivered := world.client, answers := world.env, code := some code }
  | _, _ => ending = none

theorem ending_of_ends {ending : Option Ending}
    {result : EStateM.Result Exception (World Nat (List Bytes)) StreamEnd}
    (ends : Ends (Returns ending) (Throws ending) result) : ending? result = ending := by
  match result with
  | .ok _ _ => exact ends.symm
  | .error (.jvStreamRead _ _) _ => exact ends.symm
  | .error (.comTaskTimeout _) _ => exact ends.symm
  | .error (.jvLinkFatal _) _ => exact ends.symm
  | .error (.jvOperationCanceled _) _ => exact ends.symm
  | .error .clientDisconnected _ => exact ends.symm
  | .error (.other _) _ => exact ends.symm
  | .error .stillRunning _ => exact ends.symm

theorem returns_settled (ending : Option Ending) (reason : StreamEnd) :
    Settled (Returns ending reason) := by
  intro before after same returned
  rwa [Returns, same.client, same.env]

theorem throws_settled (ending : Option Ending) (exception : Exception) :
    Settled (Throws ending exception) := by
  intro before after same thrown
  cases exception with
  | jvStreamRead code message =>
      simp only [Throws] at thrown ⊢
      rwa [same.client, same.env]
  | _ => exact thrown

section Turn

variable {next : ReadProgress} {skip : Nat → Reply × Nat} {after : Nat} {kept : List Bytes}

/-- A turn that goes on takes the two counters of the stored loop one answer further. -/
theorem storedTurn_next (unfiltered : query.filterRecordTypes = [])
    (counted : progress.actualRecords = (recordsBefore replies position).length)
    (waited : progress.retryCount = idleBefore replies position)
    (turn : StoredTurn query progress.actualRecords progress.retryCount skip (position + 1)
      (recordsBefore replies position) (replies position).kind (some next) after kept) :
    (replies position).kind.last? = none ∧ after = position + 1 ∧
      kept = recordsBefore replies (position + 1) ∧
      next.actualRecords = (recordsBefore replies (position + 1)).length ∧
      next.retryCount = idleBefore replies (position + 1) := by
  rw [recordsBefore_succ, idleBefore]
  generalize (replies position).kind = kind at turn
  cases turn with
  | delivers wanted => exact ⟨rfl, rfl, rfl, by simp [ReadKind.record?, counted], rfl⟩
  | skips unwanted => simp [StoredQuery.shouldSkip, unfiltered] at unwanted
  | waits idle =>
      rcases idle with rfl | rfl <;>
        exact ⟨rfl, rfl, by simp [ReadKind.record?], by simp [ReadKind.record?, counted],
          by simp [waited]⟩

theorem storedTurn_last
    (turn : StoredTurn query progress.actualRecords progress.retryCount skip (position + 1)
      (recordsBefore replies position) (replies position).kind none after kept) :
    (replies position).kind.last? = some none ∧ after = position + 1 ∧
      kept = recordsBefore replies position := by
  generalize (replies position).kind = kind at turn
  cases turn with
  | ends => exact ⟨rfl, rfl, rfl⟩

theorem realtimeTurn_next
    (turn : RealtimeTurn (position + 1) (passedBefore replies position) (replies position).kind
      (some next) after kept) :
    (replies position).kind.last? = none ∧ after = position + 1 ∧
      kept = passedBefore replies (position + 1) := by
  rw [passedBefore_succ]
  generalize (replies position).kind = kind at turn
  cases turn with
  | delivers => exact ⟨rfl, rfl, rfl⟩
  | deliversNothing => exact ⟨rfl, rfl, rfl⟩
  | waits => exact ⟨rfl, rfl, by simp [ReadKind.passed?]⟩

theorem realtimeTurn_last
    (turn : RealtimeTurn (position + 1) (passedBefore replies position) (replies position).kind
      none after kept) :
    (replies position).kind.last? = some none ∧ after = position + 1 ∧
      kept = passedBefore replies position := by
  generalize (replies position).kind = kind at turn
  cases turn with
  | ends => exact ⟨rfl, rfl, rfl⟩

theorem ReadFails.last {kind : ReadKind} {exception : Exception} (fails : ReadFails kind exception)
    {world : World Nat (List Bytes)} {ending : Option Ending}
    (ended : ∀ code, kind.last? = some (some code) →
      ending = some { delivered := world.client, answers := world.env, code := some code }) :
    Throws ending exception world := by
  obtain ⟨code, message, rfl, rfl⟩ := fails
  exact ended code rfl

end Turn

theorem readLoop_reads (unfiltered : query.filterRecordTypes = [])
    (intact : ∀ i, isFileCorrupted (replies i).code = false) (fuel : Nat)
    (counted : progress.actualRecords = (recordsBefore replies position).length)
    (waited : progress.retryCount = idleBefore replies position) :
    Ensures (World.Quiet position (recordsBefore replies position) answered)
      (readLoop (sequenceJVLink replies) collectingClient query fuel progress)
      (Returns (storedReads replies query.effectiveMaxRecords fuel position))
      (Throws (storedReads replies query.effectiveMaxRecords fuel position)) := by
  induction fuel generalizing position answered progress with
  | zero => exact Ensures.throw fun _ _ => rfl
  | succ fuel ih =>
      rw [storedReads, ← counted, ← waited]
      refine Ensures.ite (fun goesOn => ?_) fun stops => ?_
      · simp only [Bool.and_eq_true, decide_eq_true_eq] at goesOn
        rw [if_pos goesOn]
        refine Ensures.bind ((readOnce_quiet (intact position) progress).raise ?_) fun next => ?_
        · rintro exception world ⟨fails, quiet⟩
          refine fails.last fun code last => ?_
          simp only [last, quiet.client, quiet.env]
        · rintro world ⟨after, kept, turn, quiet⟩
          cases next with
          | some next =>
              obtain ⟨goes, rfl, rfl, records, idle⟩ := storedTurn_next unfiltered counted waited turn
              simp only [goes]
              exact ih records idle world quiet
          | none =>
              obtain ⟨last, rfl, rfl⟩ := storedTurn_last turn
              simp only [last]
              exact congrArg some (by rw [quiet.client, quiet.env])
      · simp only [Bool.and_eq_true, decide_eq_true_eq] at stops
        rw [if_neg stops]
        refine Ensures.ite (fun exhausted => ?_) fun patient => ?_
        · rw [if_pos exhausted]
          refine Ensures.throw fun world quiet => ?_
          exact congrArg some (by rw [quiet.client, quiet.env])
        · rw [if_neg patient]
          refine Ensures.pure fun world quiet => ?_
          exact congrArg some (by rw [quiet.client, quiet.env])

theorem readRealtimeLoop_reads (fuel : Nat) :
    Ensures (World.Quiet position (passedBefore replies position) answered)
      (readRealtimeLoop (sequenceJVLink replies) collectingClient fuel progress)
      (Returns (realtimeReads replies fuel position))
      (Throws (realtimeReads replies fuel position)) := by
  induction fuel generalizing position answered progress with
  | zero => exact Ensures.throw fun _ _ => rfl
  | succ fuel ih =>
      rw [realtimeReads]
      refine Ensures.bind ((readRealtimeOnce_quiet progress).raise ?_) fun next => ?_
      · rintro exception world ⟨fails, quiet⟩
        refine fails.last fun code last => ?_
        simp only [last, quiet.client, quiet.env]
      · rintro world ⟨after, kept, turn, quiet⟩
        cases next with
        | some next =>
            obtain ⟨goes, rfl, rfl⟩ := realtimeTurn_next turn
            simp only [goes]
            exact ih world quiet
        | none =>
            obtain ⟨last, rfl, rfl⟩ := realtimeTurn_last turn
            simp only [last]
            exact congrArg some (by rw [quiet.client, quiet.env])

theorem queryStored_reads (unfiltered : query.filterRecordTypes = [])
    (intact : ∀ i, isFileCorrupted (replies i).code = false) (fuel : Nat) :
    ending? (queryStored (sequenceJVLink replies) collectingClient query fuel startedWorld) =
      storedReads replies query.effectiveMaxRecords fuel 0 := by
  refine ending_of_ends ?_
  refine queryStored_quiet (returns_settled _) (throws_settled _) ?_ _
    ⟨rfl, rfl, rfl, rfl, rfl, rfl, rfl⟩
  exact Ensures.ite (fun _ => readLoop_reads unfiltered intact fuel rfl rfl) fun none => by
    simp at none

theorem queryRealtime_reads (dataspec key : Bytes) (fuel : Nat) :
    ending? (queryRealtime (sequenceJVLink replies) collectingClient dataspec key fuel
      startedWorld) = realtimeReads replies fuel 0 := by
  refine ending_of_ends ?_
  exact queryRealtime_quiet (returns_settled _) (throws_settled _) dataspec key
    (readRealtimeLoop_reads fuel) _ ⟨rfl, rfl, rfl, rfl, rfl, rfl, rfl⟩

/-! ## When they agree -/

variable (replies) in
/-- The answers up to the one that ends the stream: records and calls to wait, not too
many of the latter in a row, and no more of the former than the counter holds. -/
structure SteadyUntil (limit last : Nat) : Prop where
  ends : (replies last).kind.last? ≠ none
  goesOn : ∀ i < last, (replies i).kind = .waiting ∨ ∃ data, (replies i).kind = .record data
  patient : ∀ i, i + maxRetries ≤ last →
    ∃ j, i ≤ j ∧ j < i + maxRetries ∧ ∃ data, (replies j).kind = .record data
  countable : (recordsBefore replies last).length < limit

theorem idleBefore_le (replies : Nat → GetsReply) (position : Nat) :
    idleBefore replies position ≤ position := by
  induction position with
  | zero => exact Nat.le_refl _
  | succ position ih =>
      rw [idleBefore]
      split <;> omega

/-- The counter counts the last answers without a record. -/
theorem idleBefore_idle {i : Nat} (recent : position - idleBefore replies position ≤ i)
    (before : i < position) (data : Bytes) : (replies i).kind ≠ .record data := by
  induction position with
  | zero => omega
  | succ position ih =>
      rw [idleBefore] at recent
      split at recent
      · omega
      · rename_i idle
        by_cases last : i = position
        · rw [last]
          exact idle data
        · exact ih (by omega) (by omega)

/-- It counts all of them. -/
theorem le_idleBefore {start : Nat} (before : start ≤ position)
    (idle : ∀ i, start ≤ i → i < position → ∀ data, (replies i).kind ≠ .record data) :
    position - start ≤ idleBefore replies position := by
  induction position with
  | zero => omega
  | succ position ih =>
      by_cases reached : start = position + 1
      · omega
      · have earlier := ih (by omega) fun i late early => idle i late (by omega)
        rw [idleBefore]
        split
        · rename_i data record
          exact absurd record (idle position (by omega) (by omega) data)
        · omega

theorem recordsBefore_length_mono {earlier later : Nat} (le : earlier ≤ later) :
    (recordsBefore replies earlier).length ≤ (recordsBefore replies later).length := by
  induction later with
  | zero =>
      obtain rfl := Nat.le_zero.mp le
      exact Nat.le_refl _
  | succ later ih =>
      rcases Nat.lt_or_eq_of_le le with less | rfl
      · have shorter := ih (by omega)
        rw [recordsBefore_succ, List.length_append]
        omega
      · exact Nat.le_refl _

theorem recordsBefore_length_le (replies : Nat → GetsReply) (position : Nat) :
    (recordsBefore replies position).length ≤ (passedBefore replies position).length := by
  induction position with
  | zero => exact Nat.le_refl _
  | succ position ih =>
      rw [recordsBefore_succ, passedBefore_succ, List.length_append, List.length_append]
      cases (replies position).kind <;> simp [ReadKind.record?, ReadKind.passed?] <;> omega

/-- The loops pass on the same records as long as every success comes with data. -/
theorem recordsBefore_eq_iff (position : Nat) :
    recordsBefore replies position = passedBefore replies position ↔
      ∀ i < position, (replies i).kind ≠ .nothing := by
  induction position with
  | zero => simp [recordsBefore, passedBefore]
  | succ position ih =>
      have shorter := recordsBefore_length_le replies position
      constructor
      · intro same i before
        have lengths := congrArg List.length same
        rw [recordsBefore_succ, passedBefore_succ, List.length_append, List.length_append] at lengths
        have both : (replies position).kind ≠ .nothing ∧
            recordsBefore replies position = passedBefore replies position := by
          rw [recordsBefore_succ, passedBefore_succ] at same
          cases kind : (replies position).kind with
          | nothing =>
              simp [kind, ReadKind.record?, ReadKind.passed?] at lengths
              omega
          | _ => exact ⟨by simp, by simpa [kind, ReadKind.record?, ReadKind.passed?] using same⟩
        rcases Nat.lt_succ_iff_lt_or_eq.mp before with earlier | rfl
        · exact ih.mp both.2 i earlier
        · exact both.1
      · intro full
        have last := full position (Nat.lt_succ_self _)
        rw [recordsBefore_succ, passedBefore_succ,
          ih.mpr fun i before => full i (Nat.lt_succ_of_lt before)]
        cases kind : (replies position).kind with
        | nothing => exact absurd kind last
        | _ => rfl

variable {limit fuel last : Nat} {code : Option Int} {ending : Ending}

theorem realtimeReads_last (reached : position ≤ last) (enough : last - position < fuel)
    (goesOn : ∀ i, position ≤ i → i < last → (replies i).kind.last? = none)
    (ends : (replies last).kind.last? = some code) :
    realtimeReads replies fuel position =
      some { delivered := passedBefore replies last, answers := last + 1, code } := by
  induction fuel generalizing position with
  | zero => omega
  | succ fuel ih =>
      rw [realtimeReads]
      rcases Nat.lt_or_eq_of_le reached with before | rfl
      · rw [goesOn position (Nat.le_refl _) before]
        exact ih before (by omega) fun i late => goesOn i (by omega)
      · rw [ends]

theorem storedReads_last (reached : position ≤ last) (enough : last - position < fuel)
    (goesOn : ∀ i, position ≤ i → i < last → (replies i).kind.last? = none)
    (ends : (replies last).kind.last? = some code)
    (room : ∀ i, position ≤ i → i ≤ last →
      (recordsBefore replies i).length < limit ∧ idleBefore replies i < maxRetries) :
    storedReads replies limit fuel position =
      some { delivered := recordsBefore replies last, answers := last + 1, code } := by
  induction fuel generalizing position with
  | zero => omega
  | succ fuel ih =>
      rw [storedReads, if_pos (room position (Nat.le_refl _) reached)]
      rcases Nat.lt_or_eq_of_le reached with before | rfl
      · rw [goesOn position (Nat.le_refl _) before]
        exact ih before (by omega) (fun i late => goesOn i (by omega)) fun i late =>
          room i (by omega)
      · rw [ends]

theorem realtimeReads_ended (run : realtimeReads replies fuel position = some ending) :
    ∃ last code, position ≤ last ∧
      (∀ i, position ≤ i → i < last → (replies i).kind.last? = none) ∧
      (replies last).kind.last? = some code ∧
      ending = { delivered := passedBefore replies last, answers := last + 1, code } := by
  induction fuel generalizing position with
  | zero => cases run
  | succ fuel ih =>
      rw [realtimeReads] at run
      cases kind : (replies position).kind.last? with
      | some code =>
          rw [kind] at run
          exact ⟨position, code, Nat.le_refl _, fun i _ _ => by omega, kind, (Option.some.inj run).symm⟩
      | none =>
          rw [kind] at run
          obtain ⟨last, code, reached, goesOn, ends, rfl⟩ := ih run
          refine ⟨last, code, by omega, fun i late early => ?_, ends, rfl⟩
          rcases Nat.lt_or_eq_of_le late with later | rfl
          · exact goesOn i later early
          · exact kind

/-- A stored loop that has come to the last answer had room all the way. -/
theorem storedReads_ended (run : storedReads replies limit fuel position = some ending)
    (reached : position ≤ last)
    (goesOn : ∀ i, position ≤ i → i < last → (replies i).kind.last? = none)
    (ends : (replies last).kind.last? = some code) (answers : ending.answers = last + 1) :
    ending.delivered = recordsBefore replies last ∧
      ∀ i, position ≤ i → i ≤ last →
        (recordsBefore replies i).length < limit ∧ idleBefore replies i < maxRetries := by
  induction fuel generalizing position with
  | zero => cases run
  | succ fuel ih =>
      rw [storedReads] at run
      by_cases room : (recordsBefore replies position).length < limit ∧
          idleBefore replies position < maxRetries
      · rw [if_pos room] at run
        rcases Nat.lt_or_eq_of_le reached with before | rfl
        · rw [goesOn position (Nat.le_refl _) before] at run
          obtain ⟨delivered, later⟩ := ih run before fun i late => goesOn i (by omega)
          refine ⟨delivered, fun i late early => ?_⟩
          rcases Nat.lt_or_eq_of_le late with after | rfl
          · exact later i after early
          · exact room
        · rw [ends] at run
          obtain rfl := Option.some.inj run
          refine ⟨rfl, fun i late early => ?_⟩
          obtain rfl : position = i := by omega
          exact room
      · rw [if_neg room] at run
        obtain rfl := Option.some.inj run
        have early : position = last + 1 := answers
        omega

theorem last?_eq_none {kind : ReadKind} (goesOn : kind.last? = none) (full : kind ≠ .nothing) :
    kind = .waiting ∨ ∃ data, kind = .record data := by
  cases kind with
  | record data => exact .inr ⟨data, rfl⟩
  | waiting => exact .inl rfl
  | nothing => exact absurd rfl full
  | endOfFiles => cases goesOn
  | failure code => cases goesOn

theorem SteadyUntil.goes (steady : SteadyUntil replies limit last) {i : Nat} (before : i < last) :
    (replies i).kind.last? = none ∧ (replies i).kind ≠ .nothing := by
  rcases steady.goesOn i before with kind | ⟨data, kind⟩ <;> simp [kind, ReadKind.last?]

theorem SteadyUntil.room (steady : SteadyUntil replies limit last) {i : Nat} (le : i ≤ last) :
    (recordsBefore replies i).length < limit ∧ idleBefore replies i < maxRetries := by
  refine ⟨Nat.lt_of_le_of_lt (recordsBefore_length_mono le) steady.countable, ?_⟩
  refine Nat.lt_of_not_le fun exhausted => ?_
  have counted := idleBefore_le replies i
  obtain ⟨j, late, early, data, record⟩ := steady.patient (i - maxRetries) (by omega)
  have recent : i - idleBefore replies i ≤ j := by omega
  exact idleBefore_idle recent (by omega) data record

theorem steadyUntil_of_room (goesOn : ∀ i < last, (replies i).kind.last? = none)
    (ends : (replies last).kind.last? = some code)
    (full : ∀ i < last, (replies i).kind ≠ .nothing)
    (room : ∀ i ≤ last,
      (recordsBefore replies i).length < limit ∧ idleBefore replies i < maxRetries) :
    SteadyUntil replies limit last where
  ends := by simp [ends]
  goesOn i before := last?_eq_none (goesOn i before) (full i before)
  countable := (room last (Nat.le_refl _)).1
  patient i many := by
    refine Classical.byContradiction fun absent => ?_
    have counted := le_idleBefore (Nat.le_add_right i maxRetries) fun j late early data record =>
      absent ⟨j, late, early, data, record⟩
    have patient := (room (i + maxRetries) many).2
    omega

/-- The stored and the real-time loop agree on a sequence of answers exactly when it is
steady. -/
theorem loops_agree_iff (query : StoredQuery) (dataspec key : Bytes)
    (unlimited : query.maxRecords ≤ 0) (unfiltered : query.filterRecordTypes = [])
    (intact : ∀ i, isFileCorrupted (replies i).code = false) :
    LoopsAgree replies query dataspec key ↔ ∃ last, SteadyUntil replies (2 ^ 63 - 1) last := by
  have limit : query.effectiveMaxRecords = 2 ^ 63 - 1 := by
    rw [StoredQuery.effectiveMaxRecords, if_neg (by omega)]
  unfold LoopsAgree
  simp only [queryStored_reads unfiltered intact, queryRealtime_reads, limit]
  constructor
  · rintro ⟨fuel, ending, stored, realtime⟩
    obtain ⟨last, code, -, goesOn, ends, rfl⟩ := realtimeReads_ended realtime
    obtain ⟨delivered, room⟩ := storedReads_ended stored (Nat.zero_le _) goesOn ends rfl
    have full := (recordsBefore_eq_iff last).mp delivered.symm
    exact ⟨last, steadyUntil_of_room (fun i => goesOn i (Nat.zero_le _)) ends full fun i =>
      room i (Nat.zero_le _)⟩
  · rintro ⟨last, steady⟩
    obtain ⟨code, ends⟩ := Option.ne_none_iff_exists'.mp steady.ends
    have full := (recordsBefore_eq_iff last).mpr fun i before => (steady.goes before).2
    refine ⟨last + 1, _, storedReads_last (Nat.zero_le _) (by omega)
      (fun i _ before => (steady.goes before).1) ends fun i _ le => steady.room le, ?_⟩
    rw [full]
    exact realtimeReads_last (Nat.zero_le _) (by omega)
      (fun i _ before => (steady.goes before).1) ends

end Sequence

/-! ## Records between waiting answers -/

def recordReply (data : String) : GetsReply where
  result := .long (utf8 data).length
  safeArray := .bytes (utf8 data)
  filename := some (utf8 "RASW2024.jvd")

def changingFile : GetsReply where
  result := .long (-1)

def stillDownloading : GetsReply where
  result := .long (-3)

def endOfStream : GetsReply where
  result := .long 0

/-- Two records, a change of file before the first and a wait before the second. -/
def twoRecords : Nat → GetsReply
  | 0 => changingFile
  | 1 => recordReply "RA720240106"
  | 2 => stillDownloading
  | 3 => recordReply "SE720240106"
  | _ => endOfStream

theorem twoRecords_steady : SteadyUntil twoRecords (2 ^ 63 - 1) 4 where
  ends := by decide
  goesOn i before := by
    obtain rfl | rfl | rfl | rfl : i = 0 ∨ i = 1 ∨ i = 2 ∨ i = 3 := by omega
    · exact .inl (by decide)
    · exact .inr ⟨utf8 "RA720240106", by decide⟩
    · exact .inl (by decide)
    · exact .inr ⟨utf8 "SE720240106", by decide⟩
  patient i many := by
    have limit : maxRetries = 10000 := rfl
    omega
  countable := by decide

theorem loops_agree_iff_two_records :
    LoopsAgree twoRecords { dataspec := utf8 "RACE", fromdate := utf8 "20240106", option := 1 }
      (utf8 "0B12") (utf8 "20240106") := by
  have intact (i : Nat) : isFileCorrupted (twoRecords i).code = false := by
    rcases i with _ | _ | _ | _ | i
    all_goals rfl
  exact (loops_agree_iff _ _ _ (by decide) rfl intact).mpr ⟨4, twoRecords_steady⟩

/-- Endless waiting ends a stored query and not a real-time one. -/
theorem loops_differ_while_downloading :
    ¬ ∀ (replies : Nat → GetsReply) (query : StoredQuery) (dataspec key : Bytes),
      query.maxRecords ≤ 0 → query.filterRecordTypes = [] →
      (∀ i, isFileCorrupted (replies i).code = false) →
      LoopsAgree replies query dataspec key := by
  intro agree
  obtain ⟨fuel, ending, -, realtime⟩ := agree (fun _ => stillDownloading)
    { dataspec := [], fromdate := [], option := 1 } [] [] (by decide) rfl fun _ => by decide
  rw [queryRealtime_reads] at realtime
  obtain ⟨last, code, -, -, ends, -⟩ := realtimeReads_ended realtime
  cases ends

end JVLinkServer.Core
