import JVLinkServer.Core.Corruption

namespace JVLinkServer.Core

open Effects

/-! # Attempts and retries

A request asks for `max_retries` retries.  `jvGetsWithRetry` takes the number for that
of all attempts, the first one included.
-/

def FileEvent.isGets : FileEvent → Bool
  | .gets _ _ => true
  | .filedelete _ => false

section Retries

variable {κ ρ : Type} (jv : JVLink κ)

/-- JV-Link after it has answered an attempt and deleted a file. -/
def afterDeletion (filename : Bytes) (env : κ) : κ :=
  (jv.jvFiledelete (convertUtf8ToBSTR filename) (jv.jvGets env).2).2

/-- The answer to an attempt, when every earlier one is followed by a deletion. -/
def attemptReply (filename : Bytes) (env : κ) : (earlier : Nat) → GetsReply
  | 0 => (jv.jvGets env).1
  | earlier + 1 => attemptReply filename (afterDeletion jv filename env) earlier

/-- What the attempt makes of it.  Without an instance nothing is asked. -/
def attemptResult (filename : Bytes) (world : World κ ρ) (earlier : Nat) : GetsResult :=
  if world.wrapper.dispatch then (attemptReply jv filename world.env earlier).store none filename
  else { code := -999, buffer := none, filename }

def World.attempts (world : World κ ρ) : Nat := world.files.countP FileEvent.isGets

def World.deletions (world : World κ ρ) : Nat := world.files.countP fun event => !event.isGets

/-- The first `earlier` attempts find a damaged file. -/
def CorruptedBefore (filename : Bytes) (world : World κ ρ) (earlier : Nat) : Prop :=
  ∀ attempt < earlier, isFileCorrupted (attemptResult jv filename world attempt).code = true

/-- `retries` retries are made when they are enabled, and none when they are not. -/
structure RetriesMade (retries : Nat) (filename : Bytes) (world : World κ ρ) : Prop where
  recovers : world.wrapper.retryConfig.autoRetryOnCorruption = true → ∀ corrupted ≤ retries,
    CorruptedBefore jv filename world corrupted →
    isFileCorrupted (attemptResult jv filename world corrupted).code = false →
    ∃ after, jvGetsWithRetry jv filename world =
        .ok (attemptResult jv filename world corrupted) after ∧
      after.deletions = world.deletions + corrupted
  givesUp : world.wrapper.retryConfig.autoRetryOnCorruption = true → ∀ result after,
    jvGetsWithRetry jv filename world = .ok result after → isFileCorrupted result.code = true →
    after.attempts = world.attempts + (retries + 1)
  tries : world.wrapper.retryConfig.autoRetryOnCorruption = false →
    jvGetsWithRetry jv filename world = jvGets jv 0 none filename world

/-! ## Where the attempts end -/

/-- A read returns what its last attempt got. -/
structure ReturnsAttempt (filename : Bytes) (world : World κ ρ) (last : Nat)
    (ended : EStateM.Result Exception (World κ ρ) GetsResult) : Prop where
  returned : ∃ after, ended = .ok (attemptResult jv filename world last) after ∧
    after.deletions = world.deletions + last ∧
    (world.wrapper.dispatch = true → after.attempts = world.attempts + (last + 1))

variable {jv} {filename : Bytes} {world : World κ ρ}

variable (jv filename world) in
theorem jvGets_attempt (attemptsLeft : Nat) :
    ReturnsAttempt jv filename world 0 (jvGets jv attemptsLeft none filename world) := by
  cases instance? : world.wrapper.dispatch with
  | false =>
      refine ⟨⟨world, ?_, rfl, ?_⟩⟩
      · simp [jvGets, bind, EStateM.bind, Effects.read, instance?, attemptResult, pure, EStateM.pure]
      · simp [instance?]
  | true =>
      refine ⟨⟨{ world with
        env := (jv.jvGets world.env).2
        files := world.files ++ [.gets attemptsLeft (jv.jvGets world.env).1] }, ?_, ?_, ?_⟩⟩
      · simp [jvGets, bind, EStateM.bind, Effects.read, instance?, attemptResult, pure,
          EStateM.pure, ask, recordFile, update, attemptReply]
      · simp [World.deletions, FileEvent.isGets]
      · simp [World.attempts, FileEvent.isGets]

/-- The world in which the next attempt starts. -/
def World.recovered (jv : JVLink κ) (filename : Bytes) (attemptsLeft : Nat) (world : World κ ρ) :
    World κ ρ :=
  { world with
    env := afterDeletion jv filename world.env
    files := world.files ++ [.gets attemptsLeft (jv.jvGets world.env).1] ++ [.filedelete filename] }

@[simp] theorem World.recovered_deletions (attemptsLeft : Nat) :
    (world.recovered jv filename attemptsLeft).deletions = world.deletions + 1 := by
  simp [World.deletions, World.recovered, FileEvent.isGets]

@[simp] theorem World.recovered_attempts (attemptsLeft : Nat) :
    (world.recovered jv filename attemptsLeft).attempts = world.attempts + 1 := by
  simp [World.attempts, World.recovered, List.countP_cons, FileEvent.isGets]

theorem attemptResult_recovered (attemptsLeft earlier : Nat) :
    attemptResult jv filename (world.recovered jv filename attemptsLeft) earlier =
      attemptResult jv filename world (earlier + 1) := by
  cases instance? : world.wrapper.dispatch <;>
    simp [attemptResult, World.recovered, attemptReply, instance?]

theorem jvGetsAttempts_recovers {attemptsLeft : Nat}
    (corrupted : isFileCorrupted (attemptResult jv filename world 0).code = true) :
    jvGetsAttempts jv (attemptsLeft + 1) filename world =
      jvGetsAttempts jv attemptsLeft filename
        (world.recovered jv filename (attemptsLeft + 1)) := by
  cases instance? : world.wrapper.dispatch with
  | false =>
      simp [attemptResult, instance?, isFileCorrupted, jvErrorFileCorruptedHeader,
        jvErrorFileCorruptedRacing] at corrupted
  | true =>
      simp only [attemptResult, instance?, if_true, attemptReply, GetsReply.store_code] at corrupted
      have named : ((jv.jvGets world.env).1.store none filename).filename = filename :=
        GetsReply.store_corrupted corrupted none
      simp [jvGetsAttempts, jvGets, bind, EStateM.bind, Effects.read, instance?, pure, EStateM.pure,
        ask, recordFile, update, corrupted, named, performJVFiledelete, invokeMethod,
        World.recovered, afterDeletion]

/-- The attempts end with the first one that finds no damaged file, or with the last. -/
theorem jvGetsAttempts_end {attemptsLeft last : Nat} (within : last ≤ attemptsLeft)
    (damaged : CorruptedBefore jv filename world last)
    (ends : last = attemptsLeft ∨ isFileCorrupted (attemptResult jv filename world last).code = false) :
    ReturnsAttempt jv filename world last (jvGetsAttempts jv attemptsLeft filename world) := by
  induction last generalizing attemptsLeft world with
  | zero =>
      cases attemptsLeft with
      | zero => exact jvGets_attempt jv filename world 0
      | succ attemptsLeft =>
          have intact := ends.resolve_left (by omega)
          obtain ⟨after, got, counted⟩ := 
            (jvGets_attempt jv filename world (attemptsLeft + 1)).returned
          refine ⟨⟨after, ?_, counted⟩⟩
          simp [jvGetsAttempts, bind, EStateM.bind, got, intact, pure, EStateM.pure]
  | succ last ih =>
      cases attemptsLeft with
      | zero => omega
      | succ attemptsLeft =>
          rw [jvGetsAttempts_recovers (damaged 0 (by omega))]
          have rest := @ih (world.recovered jv filename (attemptsLeft + 1)) attemptsLeft (by omega)
            (fun attempt earlier => by
              rw [attemptResult_recovered]
              exact damaged (attempt + 1) (by omega))
            (by
              rw [attemptResult_recovered]
              exact ends.imp_left (by omega))
          obtain ⟨after, returned, deleted, attempted⟩ := rest.returned
          rw [attemptResult_recovered] at returned
          refine ⟨⟨after, returned, ?_, fun available => ?_⟩⟩
          · rw [deleted, World.recovered_deletions]
            omega
          · rw [attempted available, World.recovered_attempts]
            omega

/-- The budget of attempts in terms of the number the request gave. -/
theorem RetryConfig.retries_eq {config : RetryConfig} {maxRetries : Nat}
    (enabled : config.autoRetryOnCorruption = true)
    (configured : config.maxRetryAttempts = maxRetries) : config.retries = maxRetries - 1 := by
  simp only [RetryConfig.retries, enabled, configured, if_true]
  omega

theorem jvGetsWithRetry_end {last : Nat} (within : last ≤ world.wrapper.retryConfig.retries)
    (damaged : CorruptedBefore jv filename world last)
    (ends : last = world.wrapper.retryConfig.retries ∨
      isFileCorrupted (attemptResult jv filename world last).code = false) :
    ReturnsAttempt jv filename world last (jvGetsWithRetry jv filename world) :=
  jvGetsAttempts_end within damaged ends

theorem ReturnsAttempt.eq {last : Nat} {result : GetsResult} {after : World κ ρ}
    (returns : ReturnsAttempt jv filename world last (.ok result after)) :
    result = attemptResult jv filename world last ∧
      (world.wrapper.dispatch = true → after.attempts = world.attempts + (last + 1)) := by
  obtain ⟨_, ended, -, attempted⟩ := returns.returned
  cases ended
  exact ⟨rfl, attempted⟩

/-- Only a call of `JVGets` can find a file damaged. -/
theorem instance_of_corrupted {earlier : Nat}
    (corrupted : isFileCorrupted (attemptResult jv filename world earlier).code = true) :
    world.wrapper.dispatch = true := by
  cases instance? : world.wrapper.dispatch with
  | true => rfl
  | false =>
      simp [attemptResult, instance?, isFileCorrupted, jvErrorFileCorruptedHeader,
        jvErrorFileCorruptedRacing] at corrupted

/-- An intact result within the attempts that are made. -/
theorem retriesMade_of_intact {retries stop : Nat}
    (within : stop ≤ world.wrapper.retryConfig.retries)
    (damaged : CorruptedBefore jv filename world stop)
    (intact : isFileCorrupted (attemptResult jv filename world stop).code = false)
    (enabled : world.wrapper.retryConfig.autoRetryOnCorruption = true) :
    RetriesMade jv retries filename world where
  recovers _ corrupted _ before found := by
    have first : corrupted = stop := by
      rcases Nat.lt_trichotomy corrupted stop with less | same | more
      · simp [damaged corrupted less] at found
      · exact same
      · simp [before stop more] at intact
    obtain ⟨after, returned, deleted, -⟩ := (jvGetsWithRetry_end within damaged (.inr intact)).returned
    rw [first]
    exact ⟨after, returned, deleted⟩
  givesUp _ result after returned corrupted := by
    have ended := jvGetsWithRetry_end within damaged (.inr intact)
    rw [returned] at ended
    simp [ended.eq.1, intact] at corrupted
  tries disabled := by simp [enabled] at disabled

theorem retriesMade_of_disabled {retries : Nat}
    (disabled : world.wrapper.retryConfig.autoRetryOnCorruption = false) :
    RetriesMade jv retries filename world where
  recovers enabled := by simp [disabled] at enabled
  givesUp enabled := by simp [disabled] at enabled
  tries _ := by simp [jvGetsWithRetry, bind, EStateM.bind, Effects.read, RetryConfig.retries,
    disabled, jvGetsAttempts]

/-- No retries are asked for, and one attempt is made. -/
theorem retriesMade_of_zero (enabled : world.wrapper.retryConfig.autoRetryOnCorruption = true)
    (budget : world.wrapper.retryConfig.retries = 0) : RetriesMade jv 0 filename world := by
  have ended : ReturnsAttempt jv filename world 0 (jvGetsWithRetry jv filename world) :=
    jvGetsWithRetry_end (by omega) (fun attempt earlier => by omega) (.inl budget.symm)
  refine ⟨fun _ corrupted within _ _ => ?_, fun _ result after returned corrupted => ?_, ?_⟩
  · obtain ⟨after, returned, deleted, -⟩ := ended.returned
    obtain rfl : corrupted = 0 := by omega
    exact ⟨after, returned, deleted⟩
  · rw [returned] at ended
    obtain ⟨rfl, attempted⟩ := ended.eq
    exact attempted (instance_of_corrupted corrupted)
  · intro disabled
    simp [enabled] at disabled

/-- All the attempts find a damaged file: there was one retry less than asked for. -/
theorem not_retriesMade {retries : Nat}
    (enabled : world.wrapper.retryConfig.autoRetryOnCorruption = true)
    (budget : world.wrapper.retryConfig.retries = retries)
    (damaged : CorruptedBefore jv filename world (retries + 1)) :
    ¬ RetriesMade jv (retries + 1) filename world := by
  intro made
  have ended : ReturnsAttempt jv filename world retries (jvGetsWithRetry jv filename world) :=
    jvGetsWithRetry_end (by omega) (fun attempt earlier => damaged attempt (by omega))
      (.inl budget.symm)
  have corrupted := damaged retries (by omega)
  obtain ⟨after, returned, -, attempted⟩ := ended.returned
  have asked := made.givesUp enabled _ after returned corrupted
  have counted := attempted (instance_of_corrupted corrupted)
  omega

/-- The retries asked for are made when they are disabled, when none are asked for, and
when one of the first `maxRetries` attempts finds no damaged file. -/
theorem retries_made_iff (maxRetries : Nat)
    (configured : world.wrapper.retryConfig.maxRetryAttempts = maxRetries) :
    RetriesMade jv maxRetries filename world ↔
      world.wrapper.retryConfig.autoRetryOnCorruption = false ∨ maxRetries = 0 ∨
      ∃ attempt < maxRetries,
        isFileCorrupted (attemptResult jv filename world attempt).code = false := by
  cases enabled : world.wrapper.retryConfig.autoRetryOnCorruption with
  | false => exact iff_of_true (retriesMade_of_disabled enabled) (.inl rfl)
  | true =>
      have budget := RetryConfig.retries_eq enabled configured
      cases maxRetries with
      | zero => exact iff_of_true (retriesMade_of_zero enabled budget) (.inr (.inl rfl))
      | succ retries =>
          simp only [Bool.true_eq_false, Nat.add_one_ne_zero, false_or]
          constructor
          · intro made
            by_contra none
            refine not_retriesMade enabled budget (fun attempt earlier => ?_) made
            by_contra intact
            exact none ⟨attempt, earlier, by simpa using intact⟩
          · intro found
            classical
            have least := Nat.find_spec found
            have damaged : CorruptedBefore jv filename world (Nat.find found) := by
              intro attempt earlier
              by_contra intact
              exact Nat.find_min found earlier ⟨by omega, by simpa using intact⟩
            exact retriesMade_of_intact (by omega) damaged least.2 enabled

end Retries

theorem retries_made_when_recovered :
    RetriesMade scriptedJVLink 3 [] (initializedWorld [damagedReply, goodReply]) :=
  (retries_made_iff 3 rfl).mpr (.inr (.inr ⟨1, by decide, by decide⟩))

/-- One retry is asked for and the file is damaged once: nothing is tried again. -/
def oneRetry : World (List GetsReply) Unit where
  wrapper :=
    { dispatch := true, isInitialized := true
      retryConfig := { autoRetryOnCorruption := true, maxRetryAttempts := 1 } }
  worker := { running := true, acceptingTasks := true }
  env := [damagedReply, goodReply]
  client := ()

theorem single_retry_not_made :
    ¬ ∀ (maxRetries : Nat) (world : World (List GetsReply) Unit),
      world.wrapper.retryConfig.maxRetryAttempts = maxRetries →
        RetriesMade scriptedJVLink maxRetries [] world := by
  intro made
  have damaged : CorruptedBefore scriptedJVLink [] oneRetry (0 + 1) := by
    intro attempt earlier
    obtain rfl : attempt = 0 := by omega
    decide
  exact not_retriesMade rfl (by decide) damaged (made 1 oneRetry rfl)

end JVLinkServer.Core
