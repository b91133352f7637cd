import JVLinkServer.Core.Retries

namespace JVLinkServer.Core

open Effects

/-! # Waiting between attempts

All the attempts of a read are one task of the COM thread, and the pauses between them
count against the timeout of that task.
-/

/-- The retry settings of a request, as `handleQuery` reads them. -/
structure RetryRequest where
  autoRetry : Bool := true
  maxRetries : Int32 := 3
  retryDelayMs : Int32 := 1000
  deriving DecidableEq

namespace RetryRequest

/-- The check of `handleQuery`. -/
def accepted (request : RetryRequest) : Bool :=
  !(request.maxRetries < 0 || request.retryDelayMs < 0)

/-- What is handed to `setRetryConfig`, apart from the delay. -/
def config (request : RetryRequest) : RetryConfig where
  autoRetryOnCorruption := request.autoRetry
  maxRetryAttempts := request.maxRetries.toInt

/-- The length of one pause. -/
def delay (request : RetryRequest) : Nat := request.retryDelayMs.toInt.toNat

/-- The longest that the pauses of one read can take together. -/
def longestPause (request : RetryRequest) : Nat := request.config.retries * request.delay

end RetryRequest

section Pauses

variable {κ ρ : Type} (jv : JVLink κ)

/-- `jvGetsAttempts` with the milliseconds that it sleeps. -/
def jvGetsAttemptsSlept (delay : Nat) :
    (attemptsLeft : Nat) → (filename : Bytes) → Action κ ρ (GetsResult × Nat)
  | 0, filename => do return (← jvGets jv 0 none filename, 0)
  | attemptsLeft + 1, filename => do
      let result ← jvGets jv (attemptsLeft + 1) none filename
      if isFileCorrupted result.code then
        let _ ← performJVFiledelete jv result.filename
        let (last, slept) ← jvGetsAttemptsSlept delay attemptsLeft result.filename
        return (last, delay + slept)
      else return (result, 0)

def jvGetsWithRetrySlept (delay : Nat) (filename : Bytes) : Action κ ρ (GetsResult × Nat) := do
  jvGetsAttemptsSlept jv delay (← read).wrapper.retryConfig.retries filename

/-- The wrapper with the settings of a request. -/
def World.configuredFor (request : RetryRequest) (world : World κ ρ) : World κ ρ :=
  { world with wrapper := { world.wrapper with retryConfig := request.config } }

/-- A read of any history of answers sleeps for less than the timeout of its task. -/
def SleepsWithin (request : RetryRequest) (timeout : Nat) : Prop :=
  ∀ (κ : Type) (jv : JVLink κ) (world : World κ Unit) (filename : Bytes) result slept after,
    jvGetsWithRetrySlept jv request.delay filename (world.configuredFor request) =
      .ok (result, slept) after → slept < timeout

theorem slept_forgets (delay attemptsLeft : Nat) (filename : Bytes) :
    (do return (← jvGetsAttemptsSlept jv delay attemptsLeft filename).1 : Action κ ρ GetsResult) =
      jvGetsAttempts jv attemptsLeft filename := by
  induction attemptsLeft generalizing filename with
  | zero => simp [jvGetsAttemptsSlept, jvGetsAttempts]
  | succ attemptsLeft ih =>
      rw [jvGetsAttemptsSlept, jvGetsAttempts, bind_assoc]
      refine bind_congr fun result => ?_
      cases corrupted : isFileCorrupted result.code with
      | true => simp [← ih]
      | false => simp

/-- Without its pauses it is the read of the model. -/
theorem jvGetsWithRetry_slept (delay : Nat) (filename : Bytes) :
    (do return (← jvGetsWithRetrySlept jv delay filename).1 : Action κ ρ GetsResult) =
      jvGetsWithRetry jv filename := by
  simp only [jvGetsWithRetrySlept, jvGetsWithRetry, bind_assoc, slept_forgets]

/-- Every pause follows the deletion of a file. -/
theorem slept_le (delay attemptsLeft : Nat) (filename : Bytes) :
    Ensures (fun _ : World κ ρ => True) (jvGetsAttemptsSlept jv delay attemptsLeft filename)
      (fun got _ => got.2 ≤ attemptsLeft * delay) (fun _ _ => True) := by
  have anything {α : Type} (action : Action κ ρ α) :
      Ensures (fun _ => True) action (fun _ _ => True) (fun _ _ => True) := by
    intro world _
    cases run : action world <;> trivial
  induction attemptsLeft generalizing filename with
  | zero => exact Ensures.bind (anything _) fun result => Ensures.pure fun _ _ => Nat.zero_le _
  | succ attemptsLeft ih =>
      refine Ensures.bind (anything _) fun result => ?_
      refine Ensures.ite (fun _ => ?_) fun _ => Ensures.pure fun _ _ => Nat.zero_le _
      refine Ensures.bind (anything _) fun _ => ?_
      refine Ensures.bind (ih result.filename) fun (last, slept) => Ensures.pure fun _ within => ?_
      change delay + slept ≤ (attemptsLeft + 1) * delay
      rw [Nat.add_mul, Nat.one_mul, Nat.add_comm]
      exact Nat.add_le_add_right within delay

end Pauses

/-! ## A file that stays damaged -/

/-- Every call returns at once, and every `JVGets` finds the file damaged. -/
def damagedJVLink : JVLink Unit where
  now env := (0, env)
  taskFate _ env := (.completes, env)
  createInstance env := (true, env)
  adviseEventSink env := (true, env)
  jvInit _ env := (.long 0, env)
  jvOpen _ _ _ env := ({ result := .long 0, readCount := 1 }, env)
  jvrtOpen _ _ env := (.long 0, env)
  jvStatus env := (.long 0, env)
  jvCancel env := (.long 0, env)
  jvGets env := (damagedReply, env)
  jvSkip env := (.long 0, env)
  jvFiledelete _ env := (.long 0, env)
  jvClose env := (.long 0, env)
  jvWatchEvent env := (.long 0, env)
  jvWatchEventClose env := (.long 0, env)
  jvFukuFile _ _ env := (.long 0, env)
  jvFuku _ env := (.long 0, env)
  jvCourseFile _ env := (.long 0, env)
  jvCourseFile2 _ _ env := (.long 0, env)

def damagedWorld : World Unit Unit where
  wrapper := { dispatch := true, isInitialized := true }
  worker := { running := true, acceptingTasks := true }
  env := ()
  client := ()

/-- The world after a read that found the file damaged, and after its deletion. -/
def World.readDamaged (attemptsLeft : Nat) (world : World Unit Unit) : World Unit Unit :=
  { world with files := world.files ++ [.gets attemptsLeft damagedReply] }

def World.deleted (filename : Bytes) (world : World Unit Unit) : World Unit Unit :=
  { world with files := world.files ++ [.filedelete filename] }

section Damaged

variable {world : World Unit Unit} (available : world.wrapper.dispatch = true) (filename : Bytes)
include available

theorem jvGets_damaged (attemptsLeft : Nat) :
    jvGets damagedJVLink attemptsLeft none filename world =
      .ok (damagedReply.store none filename) (world.readDamaged attemptsLeft) := by
  simp [jvGets, bind, EStateM.bind, Effects.read, available, ask, recordFile, update, pure,
    EStateM.pure, damagedJVLink, World.readDamaged]

theorem performJVFiledelete_damaged :
    performJVFiledelete damagedJVLink filename world = .ok 0 (world.deleted filename) := by
  simp [performJVFiledelete, invokeMethod, bind, EStateM.bind, Effects.read, available, ask,
    recordFile, update, pure, EStateM.pure, damagedJVLink, World.deleted, Reply.lVal]

theorem damaged_slept (delay attemptsLeft : Nat) :
    ∃ result after, jvGetsAttemptsSlept damagedJVLink delay attemptsLeft filename world =
      .ok (result, attemptsLeft * delay) after := by
  induction attemptsLeft generalizing filename world with
  | zero =>
      refine ⟨damagedReply.store none filename, world.readDamaged 0, ?_⟩
      rw [jvGetsAttemptsSlept, bind_of_ok (jvGets_damaged available filename 0), Nat.zero_mul]
      rfl
  | succ attemptsLeft ih =>
      have corrupted : isFileCorrupted (damagedReply.store none filename).code = true := by
        rw [GetsReply.store_code]
        rfl
      have got := jvGets_damaged available filename (attemptsLeft + 1)
      have removed := @performJVFiledelete_damaged (world.readDamaged (attemptsLeft + 1))
        available (damagedReply.store none filename).filename
      obtain ⟨result, after, rest⟩ := @ih ((world.readDamaged (attemptsLeft + 1)).deleted
        (damagedReply.store none filename).filename) available (damagedReply.store none filename).filename
      refine ⟨result, after, ?_⟩
      rw [jvGetsAttemptsSlept, bind_of_ok got, if_pos corrupted, bind_of_ok removed, bind_of_ok rest,
        Nat.add_mul, Nat.one_mul, Nat.add_comm]
      rfl

end Damaged

/-- The timeout holds for every history of answers exactly when it is longer than all
the pauses that the request allows. -/
theorem sleeps_within_iff (request : RetryRequest) (timeout : Nat) :
    SleepsWithin request timeout ↔ request.longestPause < timeout := by
  constructor
  · intro within
    obtain ⟨result, after, read⟩ := @damaged_slept (damagedWorld.configuredFor request) rfl []
      request.delay request.config.retries
    exact within Unit damagedJVLink damagedWorld [] result _ after read
  · intro longer κ jv world filename result slept after read
    have bounded := slept_le jv request.delay request.config.retries filename
      (world.configuredFor request) trivial
    have ran : jvGetsAttemptsSlept jv request.delay request.config.retries filename
        (world.configuredFor request) = .ok (result, slept) after := read
    rw [ran] at bounded
    exact Nat.lt_of_le_of_lt bounded longer

/-- `getEnvDurationMs`, given what `atoi` makes of the variable. -/
def getEnvDurationMs (parsed : Option Int) (default : Nat) : Nat :=
  match parsed with
  | some seconds => if 0 < seconds then seconds.toNat * 1000 else default
  | none => default

/-- The timeout of a read with `JVLINK_COM_STREAM_READ_TIMEOUT_SEC`. -/
def streamReadTimeoutFromEnv (parsed : Option Int) : Nat :=
  getEnvDurationMs parsed ({} : TimeoutConfig).streamReadTimeout

theorem streamReadTimeout_pos (parsed : Option Int) : 0 < streamReadTimeoutFromEnv parsed := by
  unfold streamReadTimeoutFromEnv getEnvDurationMs
  split
  · split
    · omega
    · decide
  · decide

theorem longestPause_lt_iff {request : RetryRequest} (accepted : request.accepted = true)
    {timeout : Nat} (positive : 0 < timeout) :
    request.longestPause < timeout ↔ request.autoRetry = false ∨
      (max 1 request.maxRetries.toInt - 1) * request.retryDelayMs.toInt < timeout := by
  have nonnegative : 0 ≤ request.retryDelayMs.toInt := by
    simp only [RetryRequest.accepted, Bool.not_eq_true', Bool.or_eq_false_iff,
      decide_eq_false_iff_not, Int32.lt_iff_toInt_lt] at accepted
    exact Int.not_lt.mp accepted.2
  cases enabled : request.autoRetry with
  | false => simpa [RetryRequest.longestPause, RetryRequest.config, RetryConfig.retries, enabled]
      using positive
  | true =>
      have retries : (request.config.retries : Int) = max 1 request.maxRetries.toInt - 1 := by
        simp only [RetryConfig.retries, RetryRequest.config, enabled, if_true]
        omega
      have delay : (request.delay : Int) = request.retryDelayMs.toInt :=
        Int.toNat_of_nonneg nonnegative
      simp only [Bool.true_eq_false, false_or]
      rw [← retries, ← delay, RetryRequest.longestPause]
      exact_mod_cast Iff.rfl

/-- Without retries, or when all the pauses together are shorter than the timeout, no
damaged file makes a read time out. -/
theorem retries_below_timeout_iff (request : RetryRequest) (parsed : Option Int)
    (accepted : request.accepted = true) :
    SleepsWithin request (streamReadTimeoutFromEnv parsed) ↔ request.autoRetry = false ∨
      (max 1 request.maxRetries.toInt - 1) * request.retryDelayMs.toInt <
        streamReadTimeoutFromEnv parsed := by
  rw [sleeps_within_iff]
  exact longestPause_lt_iff accepted (streamReadTimeout_pos parsed)

theorem retries_below_timeout_iff_defaults :
    SleepsWithin {} (streamReadTimeoutFromEnv none) ↔ true = false ∨
      (max 1 (3 : Int32).toInt - 1) * (1000 : Int32).toInt < streamReadTimeoutFromEnv none :=
  retries_below_timeout_iff {} none (by decide)

/-- Thirty retries with the default delay take as long as the default timeout. -/
theorem many_retries_time_out :
    ¬ ∀ request : RetryRequest, request.accepted = true →
      SleepsWithin request (streamReadTimeoutFromEnv none) := by
  intro within
  have longest := (sleeps_within_iff _ _).mp (within { maxRetries := 31 } (by decide))
  exact absurd longest (by decide)

end JVLinkServer.Core
