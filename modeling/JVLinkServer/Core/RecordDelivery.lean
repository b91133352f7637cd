import JVLinkServer.Core.ClientPhases
import JVLinkServer.Core.ObligingLink

namespace JVLinkServer.Core

open Effects

/-! # From JVGets to the record callback

The answers of `JVGets` are on record with the files.  The records in them that a query does
not skip are passed on, each once and in their order.
-/

/-- The record that the read loop finds in a result. -/
def GetsResult.record? (result : GetsResult) : Option Bytes :=
  if 0 < result.code then result.buffer else none

def GetsReply.record? (reply : GetsReply) : Option Bytes := (reply.store none []).record?

namespace StoredQuery

variable (query : StoredQuery)

def keeps (record : Option Bytes) : List Bytes :=
  record.toList.filter fun record => !query.shouldSkip record

/-- The records that have been read and are not skipped. -/
def selected (files : List FileEvent) : List Bytes :=
  (getsReplies files).flatMap fun reply => query.keeps reply.record?

end StoredQuery

theorem store_record? (reply : GetsReply) (filename : Bytes) :
    (reply.store none filename).record? = reply.record? := by
  unfold GetsReply.record? GetsResult.record?
  rw [GetsReply.store_code, GetsReply.store_code]
  split
  · next success =>
      simp only [GetsReply.store, if_pos success]
      cases reply.safeArray <;> rfl
  · rfl

theorem record?_corrupted {result : GetsResult} (corrupted : isFileCorrupted result.code = true) :
    result.record? = none := by
  refine if_neg fun success => ?_
  simp only [isFileCorrupted, Bool.or_eq_true, beq_iff_eq, jvErrorFileCorruptedHeader,
    jvErrorFileCorruptedRacing] at corrupted
  omega

section Delivery

variable {κ ρ α : Type} {jv : JVLink κ} {client : StreamClient ρ} {query : StoredQuery}

theorem few_nil : ([] : List Bytes).length ≤ 1 := Nat.zero_le 1

theorem keeps_length (record : Option Bytes) : (query.keeps record).length ≤ 1 := by
  apply Nat.le_trans (List.length_filter_le _ _)
  cases record <;> simp

@[simp] theorem selected_gets (files : List FileEvent) (attemptsLeft : Nat) (reply : GetsReply) :
    query.selected (files ++ [.gets attemptsLeft reply]) =
      query.selected files ++ query.keeps reply.record? := by
  simp [StoredQuery.selected, getsReplies]

@[simp] theorem selected_filedelete (files : List FileEvent) (filename : Bytes) :
    query.selected (files ++ [.filedelete filename]) = query.selected files := by
  simp [StoredQuery.selected, getsReplies]

/-- These records have been read, and this holds of the client. -/
def Passing (query : StoredQuery) (records : List Bytes) (kept : ρ → Prop) (world : World κ ρ) :
    Prop :=
  query.selected world.files = records ∧ kept world.client

theorem passing_beside (records : List Bytes) (kept : ρ → Prop) :
    Beside (Passing (κ := κ) query records kept) := by
  intro before after alike holds
  rwa [Passing, alike.client, alike.files]

theorem callBack_passing {records : List Bytes} {action : EStateM Exception ρ α} {pre : ρ → Prop}
    {post : α → ρ → Prop} {raised : Exception → ρ → Prop}
    (ensured : Ensures pre action post raised) :
    Ensures (Passing (κ := κ) query records pre) (callBack action)
      (fun value => Passing query records (post value))
      (fun exception => Passing query records (raised exception)) := by
  intro world passing
  obtain ⟨read, holds⟩ := passing
  have ended := ensured world.client holds
  unfold callBack
  cases run : action world.client with
  | ok value after =>
      rw [run] at ended
      exact ⟨read, ended⟩
  | error exception after =>
      rw [run] at ended
      exact ⟨read, ended⟩

/-! ## Reading -/

section Gets

variable {records : List Bytes} {kept : ρ → Prop} {thrown : Exception → World κ ρ → Prop}

theorem jvGets_passing (attemptsLeft : Nat) (filename : Bytes) :
    Ensures (Passing query records kept) (jvGets jv attemptsLeft none filename)
      (fun result => Passing query (records ++ query.keeps result.record?) kept) thrown := by
  refine Ensures.bind Ensures.peek fun world => ?_
  refine Ensures.ite (fun _ => Ensures.pure fun world holds => ?_) fun _ => ?_
  · simpa [GetsResult.record?, StoredQuery.keeps] using holds
  refine Ensures.bind ((passing_beside records kept).anyEnv.ask _) fun reply => ?_
  have noted : Ensures (Passing query records kept) (recordFile (.gets attemptsLeft reply))
      (fun _ => Passing query (records ++ query.keeps reply.record?) kept) thrown := by
    apply Ensures.update
    intro world passing
    exact ⟨by rw [selected_gets, passing.1], passing.2⟩
  refine Ensures.bind noted fun _ => Ensures.pure fun world holds => ?_
  rwa [store_record?]

/-- What a retry deletes was no record. -/
theorem jvGetsAttempts_passing (attemptsLeft : Nat) (filename : Bytes) :
    Ensures (Passing query records kept) (jvGetsAttempts jv attemptsLeft filename)
      (fun result => Passing query (records ++ query.keeps result.record?) kept) thrown := by
  induction attemptsLeft generalizing filename with
  | zero => exact jvGets_passing 0 filename
  | succ attemptsLeft ih =>
      refine Ensures.bind (jvGets_passing (attemptsLeft + 1) filename) fun result => ?_
      refine Ensures.ite (fun corrupted => ?_) fun _ => Ensures.pure fun _ holds => holds
      have nothing : records ++ query.keeps result.record? = records := by
        rw [record?_corrupted corrupted]
        exact List.append_nil records
      rw [nothing]
      have noted : Ensures (Passing query records kept) (recordFile (.filedelete result.filename))
          (fun _ => Passing query records kept) thrown := by
        apply Ensures.update
        intro world passing
        exact ⟨by rw [selected_filedelete, passing.1], passing.2⟩
      refine Ensures.bind (Ensures.bind noted fun _ => ?_) fun _ => ih result.filename
      exact (passing_beside records kept).anyEnv.reads _

/-- A call that fails may have read a record. -/
theorem getsCall_passing (filename : Bytes) :
    Ensures (Passing query records kept)
      (invokeComCall jv "jv_gets" (·.streamReadTimeout) (jvGetsWithRetry jv filename))
      (fun result => Passing query (records ++ query.keeps result.record?) kept)
      (fun exception world => exception.isFault = true ∧
        ∃ pending, pending.length ≤ 1 ∧ Passing query (records ++ pending) kept world) := by
  have beside : Beside fun world : World κ ρ =>
      ∃ pending, pending.length ≤ 1 ∧ Passing query (records ++ pending) kept world := by
    intro before after alike holds
    obtain ⟨pending, few, passing⟩ := holds
    exact ⟨pending, few, passing_beside _ _ before after alike passing⟩
  apply invokeComCall_rule (passing_beside records kept).aside beside.aside
  · intro world passing
    exact ⟨[], few_nil, by rwa [List.append_nil]⟩
  · intro result world passing
    exact ⟨_, keeps_length _, passing⟩
  · exact Ensures.bind Ensures.peek fun _ => jvGetsAttempts_passing _ filename
  · exact fun _ => (passing_beside _ _).aside

end Gets

/-! ## Passing on -/

theorem closeSession_beside (world : World κ ρ) :
    world.Alike (finalState (closeSession jv world)) := by
  have alike : Beside fun after : World κ ρ => world.Alike after := by
    intro before after same holds
    exact ⟨same.files.trans holds.files, same.client.trans holds.client⟩
  have closes : Ensures (world.Alike) (closeSession jv) _ _ := alike.closeSession
  exact ((closes.raise fun _ _ none => none.elim) world ⟨rfl, rfl⟩ :
    Ends (fun _ => world.Alike) (fun _ => world.Alike) _).finalState

/-- What the client says of itself after it has received some records.  An exception may
leave it with the record of the call or without. -/
structure ClientReceives (client : StreamClient ρ) (opening : ρ → Prop)
    (received : List Bytes → ρ → Prop) (thrown : List Bytes → Exception → ρ → Prop) : Prop where
  pollsOpening : Ensures opening client.cancelRequested (fun _ => opening) (thrown [])
  describes result : result.success = true →
    Ensures opening (client.metaCallback result) (fun _ => received []) (thrown [])
  records earlier record : Ensures (received earlier) (client.recordCallback record)
    (fun _ => received (earlier ++ [record]))
    (fun exception state =>
      thrown earlier exception state ∨ thrown (earlier ++ [record]) exception state)
  pollsReading earlier : Ensures (received earlier) client.cancelRequested
    (fun _ => received earlier) (thrown earlier)
  leavesOpening exception state :
    exception ≠ .clientDisconnected → opening state → thrown [] exception state
  leaves earlier exception state :
    exception ≠ .clientDisconnected → received earlier state → thrown earlier exception state

/-- The client has received what has been read, apart from the last record perhaps. -/
def LeftBehind (query : StoredQuery) (before : List Bytes)
    (thrown : List Bytes → Exception → ρ → Prop) (exception : Exception) (world : World κ ρ) :
    Prop :=
  ∃ records pending, pending.length ≤ 1 ∧
    Passing query (before ++ records ++ pending) (thrown records exception) world

/-- The client has received all that has been read. -/
def Delivered (query : StoredQuery) (before : List Bytes) (received : List Bytes → ρ → Prop)
    (world : World κ ρ) : Prop :=
  ∃ records, Passing query (before ++ records) (received records) world

/-- All that has been read is delivered, unless nothing was and the client is told why. -/
def ReceivedFor (query : StoredQuery) (before : List Bytes) (received : List Bytes → ρ → Prop)
    (refused : ρ → Prop) (reason : StreamEnd) (world : World κ ρ) : Prop :=
  if reason.isNormal then Delivered query before received world
  else Passing query before refused world

section Calls

variable {before records pending : List Bytes} {kept : ρ → Prop}
  {thrown : List Bytes → Exception → ρ → Prop}
  (leaves : ∀ exception state, exception ≠ .clientDisconnected → kept state →
    thrown records exception state)
include leaves

theorem throwIfCanceled_passing (few : pending.length ≤ 1)
    (polls : Ensures kept client.cancelRequested (fun _ => kept) (thrown records))
    (message : String) :
    Ensures (Passing (κ := κ) query (before ++ records ++ pending) kept)
      (throwIfCanceled client message)
      (fun _ => Passing query (before ++ records ++ pending) kept)
      (LeftBehind query before thrown) := by
  have asked : Ensures (Passing (κ := κ) query (before ++ records ++ pending) kept)
      (shouldCancel client) (fun _ => Passing query (before ++ records ++ pending) kept)
      (LeftBehind query before thrown) := by
    refine Ensures.bind (passing_beside _ kept).observe fun _ => ?_
    exact (callBack_passing polls).raise fun _ _ left => ⟨records, pending, few, left⟩
  refine Ensures.bind asked fun answer => ?_
  refine Ensures.ite (fun _ => ?_) fun _ => Ensures.pure fun _ holds => holds
  apply Ensures.throw
  intro world passing
  exact ⟨records, pending, few, passing.1, leaves _ _ (by simp) passing.2⟩

/-- A COM call that reads nothing. -/
theorem comCall_passing {callable : Action κ ρ α}
    (runs : Ensures (Passing query (before ++ records) kept) callable
      (fun _ => Passing query (before ++ records) kept) fun _ _ => False)
    (operationName : String) (timeout : TimeoutConfig → Nat) :
    Ensures (Passing query (before ++ records) kept)
      (invokeComCall jv operationName timeout callable)
      (fun _ => Passing query (before ++ records) kept) (LeftBehind query before thrown) := by
  apply ((passing_beside _ kept).invokeComCall runs operationName timeout).raise
  intro exception world failed
  refine ⟨records, [], few_nil, ?_⟩
  rw [List.append_nil]
  exact ⟨failed.2.1, leaves _ _ (Exception.isFault_ne failed.1) failed.2.2⟩

end Calls

namespace ClientReceives

variable {opening : ρ → Prop} {received : List Bytes → ρ → Prop}
  {thrown : List Bytes → Exception → ρ → Prop} {before : List Bytes}
  (receives : ClientReceives client opening received thrown)
include receives

theorem throwIfCanceledOpening (message : String) :
    Ensures (Passing (κ := κ) query before opening) (throwIfCanceled client message)
      (fun _ => Passing query before opening) (LeftBehind query before thrown) := by
  have checked : Ensures (Passing (κ := κ) query (before ++ [] ++ []) opening) _ _ _ :=
    throwIfCanceled_passing receives.leavesOpening few_nil receives.pollsOpening message
  simpa only [List.append_nil] using checked

theorem throwIfCanceledReading (records : List Bytes) (message : String) :
    Ensures (Passing (κ := κ) query (before ++ records) (received records))
      (throwIfCanceled client message)
      (fun _ => Passing query (before ++ records) (received records))
      (LeftBehind query before thrown) := by
  have checked : Ensures (Passing (κ := κ) query (before ++ records ++ []) (received records))
      _ _ _ :=
    throwIfCanceled_passing (receives.leaves records) few_nil (receives.pollsReading records)
      message
  simpa only [List.append_nil] using checked

theorem deliverRecord (progress : ReadProgress) (records : List Bytes) (record : Bytes) :
    Ensures (Passing query (before ++ records ++ query.keeps (some record)) (received records))
      (deliverRecord jv client query progress record)
      (fun _ => Delivered query before received) (LeftBehind query before thrown) := by
  refine Ensures.ite (fun skipped => ?_) fun asked => ?_
  · have none : query.keeps (some record) = [] := by simp [StoredQuery.keeps, skipped]
    rw [none, List.append_nil]
    refine Ensures.bind (comCall_passing (receives.leaves records)
      ((passing_beside _ _).anyEnv.reads _) _ _) fun _ => ?_
    exact Ensures.pure fun world passing => ⟨records, passing⟩
  · have one : query.keeps (some record) = [record] := by simpa [StoredQuery.keeps] using asked
    rw [one]
    have called : Ensures
        (Passing (κ := κ) query (before ++ records ++ [record]) (received records))
        (recordCallback client record)
        (fun _ => Passing query (before ++ (records ++ [record])) (received (records ++ [record])))
        (LeftBehind query before thrown) := by
      refine Ensures.bind (passing_beside _ _).observe fun _ => ?_
      apply (callBack_passing (receives.records records record)).mono (fun _ holds => holds)
      · intro _ world passing
        rwa [← List.append_assoc]
      · intro exception world left
        obtain ⟨read, without | withIt⟩ := left
        · exact ⟨records, [record], Nat.le_refl 1, read, without⟩
        · refine ⟨records ++ [record], [], few_nil, ?_, withIt⟩
          rw [read, List.append_nil, List.append_assoc]
    refine Ensures.bind called fun _ => ?_
    refine Ensures.bind (receives.throwIfCanceledReading _ _) fun _ => ?_
    exact Ensures.pure fun world passing => ⟨_, passing⟩

/-- One turn of the loop passes on what it reads. -/
theorem readOnce (progress : ReadProgress) :
    Ensures (Delivered query before received) (readOnce jv client query progress)
      (fun _ => Delivered query before received) (LeftBehind query before thrown) := by
  intro world delivered
  obtain ⟨records, passing⟩ := delivered
  apply Ensures.bind (receives.throwIfCanceledReading records _) (fun _ => ?_) world passing
  have read : Ensures (Passing query (before ++ records) (received records))
      (invokeComCall jv "jv_gets" (·.streamReadTimeout) (jvGetsWithRetry jv progress.filename))
      _ _ :=
    getsCall_passing progress.filename
  refine Ensures.bind (read.raise ?_) fun result => ?_
  · intro exception world failed
    obtain ⟨fault, pending, few, read, holds⟩ := failed
    exact ⟨records, pending, few, read,
      receives.leaves records _ _ (Exception.isFault_ne fault) holds⟩
  refine Ensures.bind (throwIfCanceled_passing (receives.leaves records) (keeps_length _)
    (receives.pollsReading records) _) fun _ => ?_
  refine Ensures.ite (fun success => ?_) fun failure => ?_
  · have record : result.record? = result.buffer := if_pos success
    rw [record]
    cases result.buffer with
    | some record => exact receives.deliverRecord _ records record
    | none =>
        apply Ensures.pure
        intro world passing
        exact ⟨records, by simpa [StoredQuery.keeps] using passing⟩
  · have nothing : query.keeps result.record? = [] := by
      simp [GetsResult.record?, failure, StoredQuery.keeps]
    rw [nothing, List.append_nil]
    refine Ensures.ite (fun _ => Ensures.pure fun _ passing => ⟨records, passing⟩) fun _ => ?_
    refine Ensures.ite (fun _ => Ensures.pure fun _ passing => ⟨records, passing⟩) fun _ => ?_
    apply Ensures.throw
    intro world passing
    exact ⟨records, [], few_nil, by rw [List.append_nil, passing.1],
      receives.leaves records _ _ (by simp) passing.2⟩

omit receives in
theorem delivered_left {exception : Exception}
    (leaves : ∀ records state, received records state → thrown records exception state)
    {world : World κ ρ} (delivered : Delivered query before received world) :
    LeftBehind query before thrown exception world := by
  obtain ⟨records, read, holds⟩ := delivered
  exact ⟨records, [], few_nil, by rw [List.append_nil, read], leaves records _ holds⟩

theorem readLoop (fuel : Nat) (progress : ReadProgress) :
    Ensures (Delivered query before received) (readLoop jv client query fuel progress)
      (fun reason world => reason.isNormal = true ∧ Delivered query before received world)
      (LeftBehind query before thrown) := by
  induction fuel generalizing progress with
  | zero =>
      exact Ensures.throw fun _ => delivered_left fun records state =>
        receives.leaves records _ state (by simp)
  | succ fuel ih =>
      refine Ensures.ite (fun _ => ?_) fun _ => ?_
      · refine Ensures.bind (receives.readOnce progress) fun next => ?_
        cases next with
        | some next => exact ih next
        | none => exact Ensures.pure fun _ delivered => ⟨rfl, delivered⟩
      refine Ensures.ite (fun _ => ?_) fun _ => Ensures.pure fun _ delivered => ⟨rfl, delivered⟩
      exact Ensures.throw fun _ => delivered_left fun records state =>
        receives.leaves records _ state (by simp)

theorem streamRecords (fuel : Nat) (reply : OpenReply) :
    Ensures (Passing query before opening) (streamRecords jv client query fuel reply)
      (fun reason world => reason.isNormal = true ∧ Delivered query before received world)
      (LeftBehind query before thrown) := by
  refine Ensures.bind (receives.throwIfCanceledOpening _) fun _ => ?_
  have described : Ensures (Passing query before opening)
      (metaCallback client
        { success := true
          readCount := reply.readCount
          downloadCount := reply.downloadCount
          lastFileTimestamp := reply.lastFileTimestamp })
      (fun _ => Delivered (κ := κ) query before received) (LeftBehind query before thrown) := by
    refine Ensures.bind (passing_beside _ _).observe fun _ => ?_
    apply (callBack_passing (receives.describes _ rfl)).mono (fun _ holds => holds)
    · intro _ world passing
      exact ⟨[], by rwa [List.append_nil]⟩
    · intro exception world left
      exact ⟨[], [], few_nil, by rwa [List.append_nil, List.append_nil]⟩
  refine Ensures.bind described fun _ => ?_
  exact Ensures.ite (fun _ => receives.readLoop fuel {}) fun _ =>
    Ensures.pure fun _ delivered => ⟨rfl, delivered⟩

/-! ## Opening -/

theorem callOpening {callable : Action κ ρ α}
    (runs : Ensures (Passing query before opening) callable (fun _ => Passing query before opening)
      fun _ _ => False)
    (operationName : String) (timeout : TimeoutConfig → Nat) :
    Ensures (Passing query before opening) (invokeComCall jv operationName timeout callable)
      (fun _ => Passing query before opening) (LeftBehind query before thrown) := by
  rw [← List.append_nil before] at runs
  have called : Ensures _ (invokeComCall jv operationName timeout callable) _ _ :=
    comCall_passing receives.leavesOpening runs operationName timeout
  rwa [List.append_nil] at called

theorem waitForDownloadRounds (downloadCount : Int) (rounds : Nat) :
    Ensures (Passing query before opening) (waitForDownloadRounds jv client downloadCount rounds)
      (fun _ => Passing query before opening) (LeftBehind query before thrown) := by
  have anyEnv : AnyEnv (Passing (κ := κ) query before opening) :=
    (passing_beside before opening).anyEnv
  induction rounds with
  | zero => exact Ensures.pure fun _ holds => holds
  | succ rounds ih =>
      have polled : Ensures (Passing (κ := κ) query before opening) (shouldCancel client)
          (fun _ => Passing query before opening) (LeftBehind query before thrown) := by
        refine Ensures.bind (passing_beside _ _).observe fun _ => ?_
        apply (callBack_passing receives.pollsOpening).raise
        intro exception world left
        exact ⟨[], [], few_nil, by rwa [List.append_nil, List.append_nil]⟩
      refine Ensures.bind polled fun answer => ?_
      refine Ensures.ite (fun _ => ?_) fun _ => ?_
      · refine Ensures.bind (Ensures.attempt ?_) fun _ => Ensures.pure fun _ holds => holds
        exact ((passing_beside _ _).invokeComCall (anyEnv.reads _) _ _).raise
          fun _ _ failed => failed.2
      refine Ensures.bind (receives.callOpening anyEnv.performJVStatus _ _) fun status => ?_
      refine Ensures.ite (fun _ => Ensures.pure fun _ holds => holds) fun _ => ?_
      exact Ensures.ite (fun _ => Ensures.pure fun _ holds => holds) fun _ => ih

section Ending

omit receives
variable {refused : ρ → Prop}
  (fails : ∀ result : JVQueryResult, result.success = false →
    Ensures opening (client.metaCallback result) (fun _ => refused) (thrown []))
include fails

theorem refuses {result : JVQueryResult} {reason : StreamEnd} (failed : result.success = false)
    (abnormal : reason.isNormal = false) :
    Ensures (Passing (κ := κ) query before opening) (do metaCallback client result; return reason)
      (ReceivedFor query before received refused) (LeftBehind query before thrown) := by
  have told : Ensures (Passing (κ := κ) query before opening) (metaCallback client result)
      (fun _ => Passing query before refused) (LeftBehind query before thrown) := by
    refine Ensures.bind (passing_beside _ _).observe fun _ => ?_
    apply (callBack_passing (fails result failed)).raise
    intro exception world left
    exact ⟨[], [], few_nil, by rwa [List.append_nil, List.append_nil]⟩
  refine Ensures.bind told fun _ => Ensures.pure fun world passing => ?_
  simpa [ReceivedFor, abnormal] using passing

include receives

theorem openAndStream (fuel : Nat) :
    Ensures (Passing query before opening) (openAndStream jv client query fuel)
      (ReceivedFor query before received refused) (LeftBehind query before thrown) := by
  have anyEnv : AnyEnv (Passing (κ := κ) query before opening) :=
    (passing_beside before opening).anyEnv
  have streamed (reply : OpenReply) : Ensures (Passing query before opening)
      (Core.streamRecords jv client query fuel reply) (ReceivedFor query before received refused)
      (LeftBehind query before thrown) := by
    apply (receives.streamRecords fuel reply).mono (fun _ holds => holds)
    · intro reason world ended
      simpa [ReceivedFor, ended.1] using ended.2
    · exact fun _ _ left => left
  refine Ensures.bind (receives.callOpening (anyEnv.performJVOpen _ _ _) _ _) fun reply => ?_
  refine Ensures.bind (receives.throwIfCanceledOpening _) fun _ => ?_
  refine Ensures.ite (fun _ => refuses fails rfl rfl) fun _ => ?_
  refine Ensures.ite (fun _ => ?_) fun _ => streamed reply
  refine Ensures.bind (receives.waitForDownloadRounds _ _) fun waited => ?_
  refine Ensures.bind (receives.throwIfCanceledOpening _) fun _ => ?_
  exact Ensures.ite (fun _ => refuses fails rfl rfl) fun _ => streamed reply

/-- At the end of a query the client has received what has been read. -/
theorem queryStored (fuel : Nat) :
    Ensures (Passing query before opening) (queryStored jv client query fuel)
      (ReceivedFor query before received refused) (LeftBehind query before thrown) := by
  refine Ensures.bind Ensures.peek fun world => ?_
  refine Ensures.ite (fun _ => refuses fails rfl rfl) fun _ => ?_
  refine Ensures.afterwards (receives.openAndStream fails fuel) ?_ ?_
  · intro reason world ended
    have closed : world.Alike (finalState (closeSession jv world)) := closeSession_beside world
    unfold ReceivedFor at ended ⊢
    split
    · next normal =>
        rw [if_pos normal] at ended
        obtain ⟨records, passing⟩ := ended
        exact ⟨records, passing_beside _ _ _ _ closed passing⟩
    · next abnormal =>
        rw [if_neg abnormal] at ended
        exact passing_beside _ _ _ _ closed ended
  · intro exception world left
    split
    · obtain ⟨records, pending, few, passing⟩ := left
      exact ⟨records, pending, few, passing_beside _ _ _ _ (closeSession_beside world) passing⟩
    · exact left

end Ending

end ClientReceives

end Delivery

end JVLinkServer.Core
