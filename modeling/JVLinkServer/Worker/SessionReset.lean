import JVLinkServer.Worker.SessionProtocol

namespace JVLinkServer.Worker

open Transition

/-! # The session-reset handshake

A streaming handler publishes its lease first and samples the reset generation
afterwards; a reset looks at the published session first and increments the
generation afterwards.
-/

/-- The predicate that the handler polls would answer true, and the increment of
`reset` is one of those that make it so. -/
def SessionState.CancelledBy (state : SessionState) (request reset : Nat) : Prop :=
  ∃ observed sampledAt ordinal,
    (state.requests request).phase = .sampled observed sampledAt ∧
    state.isSessionResetRequested observed = true ∧
    (state.resets reset).phase.ordinal? = some ordinal ∧ sampledAt ≤ ordinal

/-- What a reset promises: the session it saw is cancelled at every check after
the increment, and a session that started after it returned is not its victim. -/
structure SessionState.ResetsDelivered (state : SessionState) : Prop where
  seen : ∀ request reset observed sampledAt ordinal,
    (state.resets reset).saw = some request →
    (state.resets reset).phase.ordinal? = some ordinal →
    (state.requests request).phase = .sampled observed sampledAt →
    state.isSessionResetRequested observed = true
  blamed : ∀ request observed sampledAt,
    (state.requests request).phase = .sampled observed sampledAt →
    state.isSessionResetRequested observed = true →
    ∃ reset, state.CancelledBy request reset
  later : ∀ request reset, (state.requests request).returnedBefore reset = true →
    ¬ state.CancelledBy request reset

/-- The increment of a reset does not fall between the publication of the session
that the reset saw and that session's sample, if it takes one, and does not complete
2^64 increments since the sample of a live session. -/
def SampledBeforeIncrement (state : SessionState) : SessionAction → Prop
  | .resetIncrement reset =>
      (∀ request, (state.resets reset).saw = some request →
        (state.requests request).incoming.operation.streams = true →
        (state.requests request).phase ≠ .published) ∧
      ∀ request observed sampledAt,
        (state.requests request).phase = .sampled observed sampledAt →
        state.increments + 1 < sampledAt + 2 ^ 64
  | _ => True

/-- The phases after the publication of the lease. -/
def RequestPhase.hasPublished : RequestPhase → Bool
  | .published | .sampled .. | .cleared | .finished _ => true
  | _ => false

@[grind →] theorem RequestPhase.hasPublished_of_leased {phase : RequestPhase}
    (leased : phase.leased = true) : phase.hasPublished = true := by
  cases phase <;> first | rfl | contradiction

@[grind →] theorem ResetPhase.ordinal?_of_hasReturned {phase : ResetPhase}
    (returned : phase.hasReturned = true) : ∃ ordinal, phase.ordinal? = some ordinal := by
  cases phase <;> first | exact ⟨_, rfl⟩ | contradiction

/-! ## Bookkeeping -/

/-- What the generations and their counters record, in every order of steps. -/
structure SessionState.Counted (state : SessionState) : Prop where
  generation : state.resetGeneration = UInt64.ofNat state.increments
  sampled : ∀ request observed sampledAt,
    (state.requests request).phase = .sampled observed sampledAt →
    observed = UInt64.ofNat sampledAt ∧ sampledAt ≤ state.increments
  ordinal : ∀ reset ordinal, (state.resets reset).phase.ordinal? = some ordinal →
    ordinal < state.increments
  incremented : ∀ ordinal < state.increments,
    ∃ reset, (state.resets reset).phase.ordinal? = some ordinal
  saw : ∀ request reset, (state.resets reset).saw = some request →
    (state.requests request).phase.hasPublished = true
  returnedBefore : ∀ request reset, (state.requests request).returnedBefore reset = true →
    (state.resets reset).phase.hasReturned = true
  returnedFirst : ∀ request reset observed sampledAt ordinal,
    (state.requests request).returnedBefore reset = true →
    (state.requests request).phase = .sampled observed sampledAt →
    (state.resets reset).phase.ordinal? = some ordinal → ordinal < sampledAt

theorem SessionState.Counted.initial : SessionState.initial.Counted := by
  constructor <;> simp [SessionState.initial, ResetPhase.ordinal?]

/-- A request moves without sampling, and does not go back behind its publication. -/
theorem SessionState.Counted.requestMoves {state next : SessionState} (counted : state.Counted)
    {request : Nat} {value : Request}
    (requests : next.requests = fun other => if other = request then value else state.requests other)
    (resets : next.resets = state.resets)
    (generation : next.resetGeneration = state.resetGeneration)
    (increments : next.increments = state.increments)
    (forward : (state.requests request).phase.hasPublished = true →
      value.phase.hasPublished = true)
    (unsampled : ∀ observed sampledAt, value.phase ≠ .sampled observed sampledAt)
    (returned : ∀ reset, value.returnedBefore reset = true →
      (state.resets reset).phase.hasReturned = true) :
    next.Counted := by
  obtain ⟨counts, sampled, ordinal, incremented, saw, returnedBefore, returnedFirst⟩ := counted
  constructor <;> simp only [requests, resets, generation, increments] <;> grind

/-- A reset moves without looking or incrementing. -/
theorem SessionState.Counted.resetMoves {state : SessionState} (counted : state.Counted)
    {reset : Nat} {phase : ResetPhase}
    (ordinal : phase.ordinal? = (state.resets reset).phase.ordinal?)
    (returned : (state.resets reset).phase.hasReturned = true → phase.hasReturned = true) :
    (state.setResetPhase reset phase).Counted := by
  obtain ⟨counts, sampled, before, incremented, saw, returnedBefore, returnedFirst⟩ := counted
  constructor <;> simp only [SessionState.setResetPhase, SessionState.setReset] <;> grind

theorem SessionState.Counted.sample {state : SessionState} (counted : state.Counted)
    (request : Nat) : (state.sample request).Counted := by
  obtain ⟨generation, sampled, ordinal, incremented, saw, returnedBefore, returnedFirst⟩ := counted
  constructor <;>
    simp only [SessionState.sample, SessionState.setPhase, SessionState.setRequest] <;>
    grind [RequestPhase.hasPublished]

theorem SessionState.Counted.resetLook {state : SessionState} (counted : state.Counted)
    (exclusive : state.Exclusive) {reset : Nat} (now : Int) (watchActive : Bool)
    (phase : (state.resets reset).phase = .arrived) :
    (state.resetLook reset now watchActive).Counted := by
  obtain ⟨generation, sampled, ordinal, incremented, saw, returnedBefore, returnedFirst⟩ := counted
  have publisher := exclusive.publisher
  constructor <;>
    simp only [SessionState.resetLook, SessionState.setReset] <;>
    grind [ResetPhase.ordinal?, ResetPhase.hasReturned]

theorem SessionState.Counted.resetIncrement {state : SessionState} (counted : state.Counted)
    {reset : Nat} {before : SessionSnapshot}
    (phase : (state.resets reset).phase = .looked before) :
    (state.resetIncrement reset before).Counted := by
  obtain ⟨generation, sampled, ordinal, incremented, saw, returnedBefore, returnedFirst⟩ := counted
  constructor <;>
    simp only [SessionState.resetIncrement, SessionState.setResetPhase, SessionState.setReset]
  · simp [generation, UInt64.ofNat_add]
  all_goals grind [ResetPhase.ordinal?, ResetPhase.hasReturned]

theorem SessionState.Counted.step {state next : SessionState} {action : SessionAction}
    (counted : state.Counted) (exclusive : state.Exclusive)
    (taken : sessionStep state action = some next) : next.Counted := by
  cases sessionStep_cases taken with
  | sample phase _ => exact counted.sample _
  | resetLook phase => exact counted.resetLook exclusive _ _ phase
  | resetIncrement phase => exact counted.resetIncrement phase
  | resetArrives phase | resetAnswer phase =>
      exact counted.resetMoves (by simp [phase, ResetPhase.ordinal?])
        (by simp [phase, ResetPhase.hasReturned])
  | resetPoll phase =>
      refine counted.resetMoves ?_ (by simp [phase, ResetPhase.hasReturned])
      rw [phase]
      split
      · rfl
      · split <;> rfl
  | requestArrives phase =>
      exact counted.requestMoves rfl rfl rfl rfl (by simp [phase, RequestPhase.hasPublished])
        (by simp) (by simp)
  | lockTaken phase _ =>
      exact counted.requestMoves rfl rfl rfl rfl (by simp [phase, RequestPhase.hasPublished])
        (by simp) (by simp)
  | lockBusy phase _ | busyHeaders phase | busyBody phase | publish phase | clear phase
  | unlock phase =>
      exact counted.requestMoves rfl rfl rfl rfl
        (by simp [phase, RequestPhase.hasPublished])
        (by simp) (counted.returnedBefore _)

/-! ## Delivery -/

/-- What holds while every increment waits for the sample of the session it is for. -/
structure SessionState.Delivered (state : SessionState) : Prop where
  waited : ∀ request reset ordinal, (state.resets reset).saw = some request →
    (state.resets reset).phase.ordinal? = some ordinal →
    (state.requests request).incoming.operation.streams = true →
    (state.requests request).phase ≠ .published
  ordered : ∀ request reset ordinal observed sampledAt,
    (state.resets reset).saw = some request →
    (state.resets reset).phase.ordinal? = some ordinal →
    (state.requests request).phase = .sampled observed sampledAt → sampledAt ≤ ordinal
  unwrapped : ∀ request observed sampledAt,
    (state.requests request).phase = .sampled observed sampledAt →
    state.increments < sampledAt + 2 ^ 64

theorem SessionState.Delivered.initial : SessionState.initial.Delivered := by
  constructor <;> simp [SessionState.initial]

theorem SessionState.Delivered.step {state next : SessionState} {action : SessionAction}
    (delivered : state.Delivered) (counted : state.Counted)
    (allowed : SampledBeforeIncrement state action)
    (taken : sessionStep state action = some next) : next.Delivered := by
  obtain ⟨waited, ordered, unwrapped⟩ := delivered
  have sampled := counted.sampled
  have saw := counted.saw
  refine ⟨?_, ?_, ?_⟩ <;> cases sessionStep_cases taken <;>
    simp only [SessionState.publish, SessionState.sample, SessionState.clear, SessionState.unlock,
      SessionState.resetLook, SessionState.resetIncrement, SessionState.resetPoll,
      SessionState.setPhase, SessionState.setRequest, SessionState.setReset,
      SessionState.setResetPhase, SampledBeforeIncrement] at *
  all_goals grind [RequestPhase.hasPublished, ResetPhase.ordinal?]

theorem ofNat_ne_ofNat {first second : Nat} (less : first < second)
    (near : second < first + 2 ^ 64) : UInt64.ofNat second ≠ UInt64.ofNat first := by
  intro same
  have := congrArg UInt64.toNat same
  simp only [UInt64.toNat_ofNat'] at this
  omega

theorem SessionState.Delivered.resetsDelivered {state : SessionState}
    (delivered : state.Delivered) (counted : state.Counted) : state.ResetsDelivered where
  seen request reset observed sampledAt ordinal saw incremented sampled := by
    have after := delivered.ordered _ _ _ _ _ saw incremented sampled
    have within := counted.ordinal _ _ incremented
    have near := delivered.unwrapped _ _ _ sampled
    have differs := ofNat_ne_ofNat (Nat.lt_of_le_of_lt after within) near
    rw [(counted.sampled _ _ _ sampled).1]
    simpa [SessionState.isSessionResetRequested, counted.generation] using differs
  blamed request observed sampledAt sampled requested := by
    obtain ⟨rfl, early⟩ := counted.sampled _ _ _ sampled
    have later : sampledAt ≠ state.increments := by
      rintro rfl
      simp [SessionState.isSessionResetRequested, counted.generation] at requested
    obtain ⟨reset, ordinal⟩ := counted.incremented sampledAt (Nat.lt_of_le_of_ne early later)
    exact ⟨reset, _, _, _, sampled, requested, ordinal, Nat.le_refl _⟩
  later request reset before := by
    rintro ⟨observed, sampledAt, ordinal, sampled, -, incremented, after⟩
    have := counted.returnedFirst _ _ _ _ _ before sampled incremented
    omega

theorem session_resets_delivered {schedule : List SessionAction} {state : SessionState}
    (along : Along sessionStep SampledBeforeIncrement SessionState.initial schedule)
    (ran : run sessionStep SessionState.initial schedule = some state) :
    state.ResetsDelivered := by
  have kept : state.Exclusive ∧ state.Counted ∧ state.Delivered := by
    refine run_preserves_along (fun state : SessionState =>
      state.Exclusive ∧ state.Counted ∧ state.Delivered) ?_ ⟨.initial, .initial, .initial⟩ along ran
    intro state action next ⟨exclusive, counted, delivered⟩ allowed taken
    exact ⟨exclusive.step taken, counted.step exclusive taken,
      delivered.step counted allowed taken⟩
  exact kept.2.2.resetsDelivered kept.2.1

/-! ## The window between the lease and the sample -/

def storedQuery : IncomingRequest where
  operation := .queryStored
  path := "/query/stored"
  dataspec := "RACE"
  requestId := utf8 "req-1"
  remoteAddr := "127.0.0.1"

/-- A stored query that has published its lease and not sampled yet. -/
def publishedSchedule : List SessionAction :=
  [.requestArrives 0 storedQuery, .tryLock 0, .publish 0 1700000000 false]

/-- A reset that has looked at the session and not incremented yet. -/
def lookedSchedule : List SessionAction :=
  [.resetArrives 0, .resetLook 0 1700000000 false]

theorem session_resets_delivered_after_sample :
    ∃ state, run sessionStep .initial
        (publishedSchedule ++ .sample 0 :: lookedSchedule ++ [.resetIncrement 0]) = some state ∧
      state.ResetsDelivered := by
  have along : Along sessionStep SampledBeforeIncrement .initial
      (publishedSchedule ++ .sample 0 :: lookedSchedule ++ [.resetIncrement 0]) := by
    refine Along.append (Along.of_forall fun state action member => ?_) rfl
      ⟨⟨?_, ?_⟩, fun _ _ => trivial⟩
    · simp only [publishedSchedule, lookedSchedule, List.cons_append, List.nil_append,
        List.mem_cons, List.not_mem_nil, or_false] at member
      rcases member with rfl | rfl | rfl | rfl | rfl | rfl <;> trivial
    · rintro _ ⟨⟩
      exact fun _ => by decide
    · intro request observed sampledAt _
      change 0 + 1 < sampledAt + 2 ^ 64
      omega
  exact ⟨_, rfl, session_resets_delivered along rfl⟩

/-- The handler samples the incremented generation, so the reset that saw its
session does not reach it. -/
theorem session_reset_lost :
    ¬ ∀ schedule state, run sessionStep .initial schedule = some state →
      state.ResetsDelivered := by
  intro delivered
  have requested :=
    (delivered (publishedSchedule ++ lookedSchedule ++ [.resetIncrement 0, .sample 0]) _ rfl).seen
    0 0 1 1 0 rfl rfl rfl
  exact absurd requested (by decide)

/-- Every reset whose increment falls in that window is lost on the session it saw. -/
theorem resetIncrement_before_sample_lost {state next : SessionState} {request reset : Nat}
    (ran : run sessionStep state [.resetIncrement reset, .sample request] = some next) :
    ∃ observed sampledAt, (next.requests request).phase = .sampled observed sampledAt ∧
      next.isSessionResetRequested observed = false := by
  obtain ⟨middle, incremented, ran⟩ := run_cons_eq_some.mp ran
  obtain ⟨last, sampled, ran⟩ := run_cons_eq_some.mp ran
  cases ran
  cases sessionStep_cases incremented
  cases sessionStep_cases sampled
  exact ⟨_, _, congrArg Request.phase (if_pos rfl), bne_self_eq_false _⟩

end JVLinkServer.Worker
