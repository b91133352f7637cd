import JVLinkServer.Core.Queries

namespace JVLinkServer.Core

open Effects

/-! # Queries on a JV-Link that obliges

What a read loop does with the answers of `JVGets` when everything else succeeds: no
COM call times out, the stream opens, and nobody cancels.
-/

section Obliging

variable {κ : Type}

/-- `JVGets` and `JVSkip` are given; all the other calls succeed and change nothing. -/
def obligingJVLink (readCount : Int) (gets : κ → GetsReply × κ) (skip : κ → Reply × κ) :
    JVLink κ where
  now env := (1700000000, env)
  taskFate _ env := (.completes, env)
  createInstance env := (true, env)
  adviseEventSink env := (true, env)
  jvInit _ env := (.long 0, env)
  jvOpen _ _ _ env := ({ result := .long 0, readCount }, env)
  jvrtOpen _ _ env := (.long 0, env)
  jvStatus env := (.long 0, env)
  jvCancel env := (.long 0, env)
  jvGets := gets
  jvSkip := skip
  jvFiledelete _ env := (.long 0, env)
  jvClose env := (.long 0, env)
  jvWatchEvent env := (.long 0, env)
  jvWatchEventClose env := (.long 0, env)
  jvFukuFile _ _ env := (.long 0, env)
  jvFuku _ env := (.long 0, env)
  jvCourseFile _ env := (.long 0, env)
  jvCourseFile2 _ _ env := (.long 0, env)

/-- A client that keeps the records it is passed. -/
def collectingClient : StreamClient (List Bytes) where
  recordCallback record := update (· ++ [record])
  metaCallback _ := return ()
  cancelRequested := return false

/-- What a read loop distinguishes in an answer of `JVGets`. -/
inductive ReadKind
  | record (data : Bytes)
  | nothing
  | endOfFiles
  | waiting
  | failure (code : Int)
  deriving DecidableEq, Repr

/-- `nothing` is a code of success without data. -/
def GetsReply.kind (reply : GetsReply) : ReadKind :=
  if 0 < reply.code then
    match reply.safeArray with
    | .bytes data => .record (data.take reply.code.toNat)
    | .null | .inaccessible => .nothing
  else if isJVGetsEOF reply.code then .endOfFiles
  else if isJVGetsDownloadInProgress reply.code || isJVGetsFileSwitching reply.code then .waiting
  else .failure reply.code

/-- The answers of `JVGets` in a record of the files. -/
def getsReplies (files : List FileEvent) : List GetsReply :=
  files.filterMap fun event =>
    match event with
    | .gets _ reply => some reply
    | .filedelete _ => none

/-- The wrapper is at work and without a fault. -/
structure World.Quiet (env : κ) (delivered : List Bytes) (answered : List GetsReply)
    (world : World κ (List Bytes)) : Prop where
  dispatch : world.wrapper.dispatch = true
  sound : world.wrapper.faulted = false
  accepts : world.worker.accepts = true
  env : world.env = env
  client : world.client = delivered
  answered : getsReplies world.files = answered

/-- The worlds differ in what is on record about the calls only. -/
structure World.SameButRecords (before after : World κ (List Bytes)) : Prop where
  dispatch : after.wrapper.dispatch = before.wrapper.dispatch
  faulted : after.wrapper.faulted = before.wrapper.faulted
  worker : after.worker = before.worker
  env : after.env = before.env
  client : after.client = before.client
  files : after.files = before.files

def Settled (kept : World κ (List Bytes) → Prop) : Prop :=
  ∀ before after, before.SameButRecords after → kept before → kept after

theorem quiet_settled (env : κ) (delivered : List Bytes) (answered : List GetsReply) :
    Settled (World.Quiet env delivered answered) := by
  intro before after same quiet
  exact
    { dispatch := same.dispatch.trans quiet.dispatch
      sound := same.faulted.trans quiet.sound
      accepts := by rw [same.worker]; exact quiet.accepts
      env := same.env.trans quiet.env
      client := same.client.trans quiet.client
      answered := by rw [same.files]; exact quiet.answered }

theorem ComThreadWorker.accepts_iff {worker : ComThreadWorker} :
    worker.accepts = true ↔
      worker.running = true ∧ worker.acceptingTasks = true ∧ worker.faulted = false := by
  simp [accepts, and_assoc]

section Calls

variable {readCount : Int} {gets : κ → GetsReply × κ} {skip : κ → Reply × κ} {α : Type}
  {thrown : Exception → World κ (List Bytes) → Prop}

theorem Settled.observe {kept : World κ (List Bytes) → Prop} (settled : Settled kept) :
    Ensures kept observe (fun _ => kept) thrown :=
  fun world holds => settled world _ ⟨rfl, rfl, rfl, rfl, rfl, rfl⟩ holds

section Quietly

variable {env : κ} {delivered : List Bytes} {answered : List GetsReply}
  {callable : Action κ (List Bytes) α} {post : α → World κ (List Bytes) → Prop}
  (runs : Ensures (World.Quiet env delivered answered) callable post fun _ _ => False)
include runs

theorem runOnComThread_quiet (operationName : String) (timeout : Nat) :
    Ensures (World.Quiet env delivered answered)
      (runOnComThread (obligingJVLink readCount gets skip) operationName timeout callable)
      post fun _ _ => False := by
  refine Ensures.bind Ensures.read fun world => ?_
  rintro _ ⟨rfl, quiet⟩
  obtain ⟨running, accepting, sound⟩ := ComThreadWorker.accepts_iff.mp quiet.accepts
  have task : Ensures (World.Quiet env delivered answered)
      (invokeTask (obligingJVLink readCount gets skip) operationName timeout callable)
      post fun _ _ => False := by
    refine Ensures.bind Ensures.read fun world => ?_
    rintro _ ⟨rfl, quiet⟩
    obtain ⟨running, accepting, sound⟩ := ComThreadWorker.accepts_iff.mp quiet.accepts
    have asked : Ensures (World.Quiet env delivered answered)
        (ask ((obligingJVLink readCount gets skip).taskFate operationName))
        (fun fate world => fate = .completes ∧ World.Quiet env delivered answered world)
        fun _ _ => False :=
      fun world quiet => ⟨rfl, quiet_settled _ _ _ world _ ⟨rfl, rfl, rfl, rfl, rfl, rfl⟩ quiet⟩
    simp only [running, sound, quiet.accepts, Bool.not_true, Bool.false_eq_true, if_false]
    split
    · exact runs _ quiet
    · refine Ensures.bind asked (fun fate => ?_) _ quiet
      rintro world ⟨rfl, quiet⟩
      exact runs world quiet
  simp only [running, Bool.not_true, Bool.false_eq_true, if_false]
  exact task _ quiet

/-- A COM call comes to what it calls. -/
theorem invokeComCall_quiet (settled : ∀ value, Settled (post value)) (operationName : String)
    (timeout : TimeoutConfig → Nat) :
    Ensures (World.Quiet env delivered answered)
      (invokeComCall (obligingJVLink readCount gets skip) operationName timeout callable)
      post thrown := by
  have quiet := quiet_settled env delivered answered
  refine Ensures.bind quiet.observe fun _ => ?_
  refine Ensures.bind Ensures.read fun world => ?_
  rintro _ ⟨rfl, holds⟩
  have asked : Ensures (World.Quiet env delivered answered)
      (ask (obligingJVLink readCount gets skip).now)
      (fun _ => World.Quiet env delivered answered) thrown :=
    fun world holds => quiet world _ ⟨rfl, rfl, rfl, rfl, rfl, rfl⟩ holds
  have tracked (now : Int) : Ensures (World.Quiet env delivered answered)
      (setWrapper (·.beginOperationTracking operationName now))
      (fun _ => World.Quiet env delivered answered) thrown :=
    fun world holds => quiet world _ ⟨rfl, rfl, rfl, rfl, rfl, rfl⟩ holds
  have finished (value : α) : Ensures (post value) (setWrapper (·.finishOperationTracking))
      (fun _ => post value) thrown :=
    fun world holds => settled value world _ ⟨rfl, rfl, rfl, rfl, rfl, rfl⟩ holds
  simp only [holds.sound, Bool.false_eq_true, if_false]
  refine Ensures.bind asked (fun now => ?_) _ holds
  refine Ensures.bind (tracked now) fun _ => ?_
  refine Ensures.bind (Ensures.handle (runOnComThread_quiet runs operationName _)
    fun _ => Ensures.vacuous) fun value => ?_
  refine Ensures.bind (finished value) fun _ => ?_
  exact Ensures.bind (settled value).observe fun _ => Ensures.pure fun _ holds => holds

end Quietly

section Methods

variable {env : κ} {delivered : List Bytes} {answered : List GetsReply}

theorem jvGets_quiet (attemptsLeft : Nat) (filename : Bytes) :
    Ensures (World.Quiet env delivered answered)
      (jvGets (obligingJVLink readCount gets skip) attemptsLeft none filename)
      (fun result world => result = (gets env).1.store none filename ∧
        World.Quiet (gets env).2 delivered (answered ++ [(gets env).1]) world) thrown := by
  refine Ensures.bind Ensures.read fun world => ?_
  rintro _ ⟨rfl, quiet⟩
  have asked : Ensures (World.Quiet env delivered answered)
      (ask (obligingJVLink readCount gets skip).jvGets)
      (fun reply world => reply = (gets env).1 ∧
        World.Quiet (gets env).2 delivered answered world) thrown := by
    rintro world quiet
    obtain rfl := quiet.env
    exact ⟨rfl, { quiet with env := rfl }⟩
  have recorded (reply : GetsReply) :
      Ensures (fun world => reply = (gets env).1 ∧ World.Quiet (gets env).2 delivered answered world)
        (recordFile (.gets attemptsLeft reply))
        (fun _ world => reply = (gets env).1 ∧
          World.Quiet (gets env).2 delivered (answered ++ [(gets env).1]) world) thrown := by
    rintro world ⟨rfl, quiet⟩
    refine ⟨rfl, { quiet with answered := ?_ }⟩
    rw [← quiet.answered]
    simp [getsReplies]
  simp only [quiet.dispatch, Bool.not_true, Bool.false_eq_true, if_false]
  refine Ensures.bind asked (fun reply => ?_) _ quiet
  refine Ensures.bind (recorded reply) fun _ => ?_
  refine Ensures.pure ?_
  rintro world ⟨rfl, quiet⟩
  exact ⟨rfl, quiet⟩

theorem jvGetsWithRetry_quiet (intact : isFileCorrupted (gets env).1.code = false)
    (filename : Bytes) :
    Ensures (World.Quiet env delivered answered)
      (jvGetsWithRetry (obligingJVLink readCount gets skip) filename)
      (fun result world => result = (gets env).1.store none filename ∧
        World.Quiet (gets env).2 delivered (answered ++ [(gets env).1]) world) thrown := by
  refine Ensures.bind Ensures.peek fun world => ?_
  cases world.wrapper.retryConfig.retries with
  | zero => exact jvGets_quiet 0 filename
  | succ attemptsLeft =>
      refine Ensures.bind (jvGets_quiet (attemptsLeft + 1) filename) fun result => ?_
      rintro world ⟨rfl, quiet⟩
      have returned : isFileCorrupted ((gets env).1.store none filename).code = false := by
        rw [GetsReply.store_code]
        exact intact
      simp only [returned, Bool.false_eq_true, if_false]
      exact ⟨rfl, quiet⟩

theorem performJVSkip_quiet :
    Ensures (World.Quiet env delivered answered)
      (performJVSkip (obligingJVLink readCount gets skip))
      (fun _ => World.Quiet (skip env).2 delivered answered) thrown := by
  have invoked : Ensures (World.Quiet env delivered answered)
      (invokeMethod (obligingJVLink readCount gets skip).jvSkip)
      (fun _ => World.Quiet (skip env).2 delivered answered) thrown := by
    refine Ensures.bind Ensures.read fun world => ?_
    rintro _ ⟨rfl, quiet⟩
    simp only [quiet.dispatch, if_true]
    obtain rfl := quiet.env
    exact { quiet with env := rfl }
  exact Ensures.bind invoked fun _ => Ensures.pure fun _ quiet => quiet

theorem throwIfCanceled_quiet (message : String) :
    Ensures (World.Quiet env delivered answered) (throwIfCanceled collectingClient message)
      (fun _ => World.Quiet env delivered answered) thrown := by
  have polled : Ensures (World.Quiet env delivered answered) (shouldCancel collectingClient)
      (fun answer world => answer = false ∧ World.Quiet env delivered answered world) thrown := by
    refine Ensures.bind (quiet_settled _ _ _).observe fun _ => ?_
    intro world quiet
    exact ⟨rfl, quiet_settled _ _ _ world _ ⟨rfl, rfl, rfl, rfl, rfl, rfl⟩ quiet⟩
  refine Ensures.bind polled fun answer => ?_
  rintro world ⟨rfl, quiet⟩
  exact quiet

theorem recordCallback_quiet (record : Bytes) :
    Ensures (World.Quiet env delivered answered) (recordCallback collectingClient record)
      (fun _ => World.Quiet env (delivered ++ [record]) answered) thrown := by
  refine Ensures.bind (quiet_settled _ _ _).observe fun _ => ?_
  intro world quiet
  obtain rfl := quiet.client
  exact { quiet with client := rfl }

theorem metaCallback_quiet (result : JVQueryResult) :
    Ensures (World.Quiet env delivered answered) (metaCallback collectingClient result)
      (fun _ => World.Quiet env delivered answered) thrown := by
  refine Ensures.bind (quiet_settled _ _ _).observe fun _ => ?_
  intro world quiet
  exact quiet_settled _ _ _ world _ ⟨rfl, rfl, rfl, rfl, rfl, rfl⟩ quiet

/-! ## One turn of a read loop -/

variable {query : StoredQuery}

/-- What a turn of the loop of `queryStored` makes of an answer: the next progress, the
state of JV-Link and the records passed on. -/
inductive StoredTurn (query : StoredQuery) (actualRecords retryCount : Nat)
    (skip : κ → Reply × κ) (env : κ) (delivered : List Bytes) :
    ReadKind → Option ReadProgress → κ → List Bytes → Prop
  | delivers {data filename} (wanted : query.shouldSkip data = false) :
      StoredTurn query actualRecords retryCount skip env delivered (.record data)
        (some { actualRecords := actualRecords + 1, retryCount := 0, filename })
        env (delivered ++ [data])
  | skips {data filename} (unwanted : query.shouldSkip data = true) :
      StoredTurn query actualRecords retryCount skip env delivered (.record data)
        (some { actualRecords, retryCount := 0, filename }) (skip env).2 delivered
  | waits {kind filename} (idle : kind = .nothing ∨ kind = .waiting) :
      StoredTurn query actualRecords retryCount skip env delivered kind
        (some { actualRecords, retryCount := retryCount + 1, filename }) env delivered
  | ends : StoredTurn query actualRecords retryCount skip env delivered .endOfFiles none env delivered

/-- A failing answer is thrown, in either loop. -/
def ReadFails (kind : ReadKind) (exception : Exception) : Prop :=
  ∃ code message, kind = .failure code ∧ exception = .jvStreamRead code message

theorem GetsReply.store_buffer {reply : GetsReply} (positive : 0 < reply.code)
    (filename : Bytes) :
    (reply.store none filename).buffer =
      match reply.kind with
      | .record data => some data
      | _ => none := by
  unfold GetsReply.store GetsReply.kind
  simp only [if_pos positive]
  cases reply.safeArray <;> rfl

theorem deliverRecord_quiet (progress : ReadProgress) (record : Bytes) :
    Ensures (World.Quiet env delivered answered)
      (deliverRecord (obligingJVLink readCount gets skip) collectingClient query progress record)
      (fun next world => ∃ after kept,
        StoredTurn query progress.actualRecords progress.retryCount skip env delivered
          (.record record) next after kept ∧ World.Quiet after kept answered world) thrown := by
  refine Ensures.ite (fun unwanted => ?_) fun wanted => ?_
  · refine Ensures.bind (invokeComCall_quiet performJVSkip_quiet
      (fun _ => quiet_settled _ _ _) _ _) fun _ => ?_
    exact Ensures.pure fun world quiet => ⟨_, _, .skips unwanted, quiet⟩
  · refine Ensures.bind (recordCallback_quiet record) fun _ => ?_
    refine Ensures.bind (throwIfCanceled_quiet _) fun _ => ?_
    exact Ensures.pure fun world quiet => ⟨_, _, .delivers (by simpa using wanted), quiet⟩

theorem readOnce_quiet (intact : isFileCorrupted (gets env).1.code = false)
    (progress : ReadProgress) :
    Ensures (World.Quiet env delivered answered)
      (readOnce (obligingJVLink readCount gets skip) collectingClient query progress)
      (fun next world => ∃ after kept,
        StoredTurn query progress.actualRecords progress.retryCount skip (gets env).2 delivered
          (gets env).1.kind next after kept ∧
            World.Quiet after kept (answered ++ [(gets env).1]) world)
      (fun exception world => ReadFails (gets env).1.kind exception ∧
        World.Quiet (gets env).2 delivered (answered ++ [(gets env).1]) world) := by
  have settled (result : GetsResult) : Settled (fun world : World κ (List Bytes) =>
      result = (gets env).1.store none progress.filename ∧
        World.Quiet (gets env).2 delivered (answered ++ [(gets env).1]) world) :=
    fun before after same holds => ⟨holds.1, quiet_settled _ _ _ before after same holds.2⟩
  refine Ensures.bind (throwIfCanceled_quiet _) fun _ => ?_
  refine Ensures.bind (invokeComCall_quiet (jvGetsWithRetry_quiet intact progress.filename)
    settled _ _) fun result => ?_
  rintro world ⟨rfl, quiet⟩
  refine Ensures.bind (throwIfCanceled_quiet _) (fun _ => ?_) world quiet
  simp only [GetsReply.store_code]
  generalize (gets env).1 = reply
  refine Ensures.ite (fun positive => ?_) fun nonpositive => ?_
  · rw [GetsReply.store_buffer positive]
    cases kind : reply.kind with
    | record data => exact (deliverRecord_quiet _ data)
    | nothing => exact Ensures.pure fun _ quiet => ⟨_, _, .waits (.inl rfl), quiet⟩
    | _ =>
        simp only [GetsReply.kind, if_pos positive] at kind
        split at kind <;> cases kind
  · simp only [GetsReply.kind, if_neg nonpositive]
    refine Ensures.ite (fun ended => ?_) fun more => ?_
    · simp only [if_pos ended]
      exact Ensures.pure fun _ quiet => ⟨_, _, .ends, quiet⟩
    simp only [if_neg more]
    refine Ensures.ite (fun waiting => ?_) fun failed => ?_
    · simp only [if_pos waiting]
      exact Ensures.pure fun _ quiet => ⟨_, _, .waits (.inr rfl), quiet⟩
    · simp only [if_neg failed]
      exact Ensures.throw fun _ quiet => ⟨⟨_, _, rfl, rfl⟩, quiet⟩

/-- The same for the loop of `queryRealtime`, which passes on an empty record when
there is no data. -/
inductive RealtimeTurn (env : κ) (delivered : List Bytes) :
    ReadKind → Option ReadProgress → κ → List Bytes → Prop
  | delivers {data progress} :
      RealtimeTurn env delivered (.record data) (some progress) env (delivered ++ [data])
  | deliversNothing {progress} :
      RealtimeTurn env delivered .nothing (some progress) env (delivered ++ [[]])
  | waits {progress} : RealtimeTurn env delivered .waiting (some progress) env delivered
  | ends : RealtimeTurn env delivered .endOfFiles none env delivered

theorem readRealtimeOnce_quiet (progress : ReadProgress) :
    Ensures (World.Quiet env delivered answered)
      (readRealtimeOnce (obligingJVLink readCount gets skip) collectingClient progress)
      (fun next world => ∃ after kept,
        RealtimeTurn (gets env).2 delivered (gets env).1.kind next after kept ∧
          World.Quiet after kept (answered ++ [(gets env).1]) world)
      (fun exception world => ReadFails (gets env).1.kind exception ∧
        World.Quiet (gets env).2 delivered (answered ++ [(gets env).1]) world) := by
  have settled (result : GetsResult) : Settled (fun world : World κ (List Bytes) =>
      result = (gets env).1.store none progress.filename ∧
        World.Quiet (gets env).2 delivered (answered ++ [(gets env).1]) world) :=
    fun before after same holds => ⟨holds.1, quiet_settled _ _ _ before after same holds.2⟩
  refine Ensures.bind (throwIfCanceled_quiet _) fun _ => ?_
  refine Ensures.bind (invokeComCall_quiet (jvGets_quiet 0 progress.filename)
    settled _ _) fun result => ?_
  rintro world ⟨rfl, quiet⟩
  refine Ensures.bind (throwIfCanceled_quiet _) (fun _ => ?_) world quiet
  simp only [GetsReply.store_code]
  generalize (gets env).1 = reply
  refine Ensures.ite (fun positive => ?_) fun nonpositive => ?_
  · rw [GetsReply.store_buffer positive]
    refine Ensures.bind (recordCallback_quiet _) fun _ => ?_
    refine Ensures.bind (throwIfCanceled_quiet _) fun _ => ?_
    cases kind : reply.kind with
    | record data => exact Ensures.pure fun _ quiet => ⟨_, _, .delivers, quiet⟩
    | nothing => exact Ensures.pure fun _ quiet => ⟨_, _, .deliversNothing, quiet⟩
    | _ =>
        simp only [GetsReply.kind, if_pos positive] at kind
        split at kind <;> cases kind
  · simp only [GetsReply.kind, if_neg nonpositive]
    refine Ensures.ite (fun ended => ?_) fun more => ?_
    · simp only [if_pos ended]
      exact Ensures.pure fun _ quiet => ⟨_, _, .ends, quiet⟩
    simp only [if_neg more, Bool.or_comm (isJVGetsDownloadInProgress reply.code)]
    refine Ensures.ite (fun waiting => ?_) fun failed => ?_
    · simp only [if_pos waiting]
      exact Ensures.pure fun _ quiet => ⟨_, _, .waits, quiet⟩
    · simp only [if_neg failed]
      exact Ensures.throw fun _ quiet => ⟨⟨_, _, rfl, rfl⟩, quiet⟩

/-! ## Around the loops -/

theorem World.SameButRecords.trans {before middle after : World κ (List Bytes)}
    (first : before.SameButRecords middle) (second : middle.SameButRecords after) :
    before.SameButRecords after where
  dispatch := second.dispatch.trans first.dispatch
  faulted := second.faulted.trans first.faulted
  worker := second.worker.trans first.worker
  env := second.env.trans first.env
  client := second.client.trans first.client
  files := second.files.trans first.files

theorem sameButRecords_settled (start : World κ (List Bytes)) : Settled start.SameButRecords :=
  fun _ _ same before => before.trans same

/-- The end of a session leaves its mark on the record only. -/
theorem closeSession_same (start : World κ (List Bytes)) :
    start.SameButRecords
      (finalState (closeSession (obligingJVLink readCount gets skip) start)) := by
  have settled := sameButRecords_settled start
  have asked {β : Type} (answer : β) : Keeps start.SameButRecords
      (ask fun env => (answer, env) : Action κ (List Bytes) β) :=
    fun world same => settled world _ ⟨rfl, rfl, rfl, rfl, rfl, rfl⟩ same
  have closes : Keeps start.SameButRecords
      (performJVClose (obligingJVLink readCount gets skip)) := by
    refine Keeps.bind Ensures.peek fun world => ?_
    refine Keeps.ite (Keeps.pure _) (Keeps.bind ?_ fun _ => Keeps.pure _)
    exact Keeps.bind Ensures.peek fun world => Keeps.ite (asked _) (Keeps.pure _)
  have ran (timeout : Nat) : Keeps start.SameButRecords
      (runOnComThread (obligingJVLink readCount gets skip) "jv_close" timeout
        (performJVClose (obligingJVLink readCount gets skip))) := by
    refine Keeps.bind Ensures.peek fun world => Keeps.ite closes ?_
    refine Keeps.bind Ensures.peek fun world => ?_
    refine Keeps.ite (Keeps.throw _) (Keeps.ite (Keeps.throw _) (Keeps.ite (Keeps.throw _) ?_))
    refine Keeps.ite closes (Ensures.bind (?_ : Ensures _ _
      (fun fate world => fate = .completes ∧ start.SameButRecords world) _) fun fate => ?_)
    · exact fun world same => ⟨rfl, settled world _ ⟨rfl, rfl, rfl, rfl, rfl, rfl⟩ same⟩
    · rintro world ⟨rfl, same⟩
      exact closes world same
  have closed : Keeps start.SameButRecords
      (closeSession (obligingJVLink readCount gets skip)) :=
    Keeps.bind Ensures.peek fun world =>
      Keeps.bind (Ensures.attempt (ran _)) fun _ => settled.observe
  exact (closed start ⟨rfl, rfl, rfl, rfl, rfl, rfl⟩).finalState

section Queries

variable {post : StreamEnd → World κ (List Bytes) → Prop}
  (settled : ∀ reason, Settled (post reason))
  (settledThrown : ∀ exception, Settled (thrown exception))
include settled settledThrown

theorem withSessionGuard_quiet {body : Action κ (List Bytes) StreamEnd}
    {pre : World κ (List Bytes) → Prop} (streams : Ensures pre body post thrown) :
    Ensures pre (withSessionGuard (obligingJVLink readCount gets skip) body) post thrown := by
  refine Ensures.afterwards streams (fun reason world holds => ?_) fun exception world holds => ?_
  · exact settled reason world _ (closeSession_same world) holds
  · split
    · exact settledThrown exception world _ (closeSession_same world) holds
    · exact holds

/-- A stored query is its read loop, if there are files to read. -/
theorem queryStored_quiet {fuel : Nat}
    (streams : Ensures (World.Quiet env delivered answered)
      (if 0 < readCount then
        readLoop (obligingJVLink readCount gets skip) collectingClient query fuel {}
      else pure .noFiles) post thrown) :
    Ensures (fun world => world.wrapper.isInitialized = true ∧
        World.Quiet env delivered answered world)
      (queryStored (obligingJVLink readCount gets skip) collectingClient query fuel)
      post thrown := by
  have opens : Ensures (World.Quiet env delivered answered)
      (performJVOpen (obligingJVLink readCount gets skip) query.dataspec query.fromTime query.option)
      (fun reply world => reply = { result := .long 0, readCount } ∧
        World.Quiet env delivered answered world) fun _ _ => False := by
    refine Ensures.bind Ensures.read fun world => ?_
    rintro _ ⟨rfl, quiet⟩
    simp only [quiet.dispatch, Bool.not_true, Bool.false_eq_true, if_false]
    exact ⟨rfl, quiet_settled _ _ _ world _ ⟨rfl, rfl, rfl, rfl, rfl, rfl⟩ quiet⟩
  have opened (reply : OpenReply) : Settled (fun world : World κ (List Bytes) =>
      reply = { result := .long 0, readCount } ∧ World.Quiet env delivered answered world) :=
    fun before after same holds => ⟨holds.1, quiet_settled _ _ _ before after same holds.2⟩
  refine Ensures.bind Ensures.read fun world => ?_
  rintro _ ⟨rfl, initialized, quiet⟩
  simp only [initialized, Bool.not_true, Bool.false_eq_true, if_false]
  refine withSessionGuard_quiet settled settledThrown ?_ _ quiet
  refine Ensures.bind (invokeComCall_quiet opens opened _ _) fun reply => ?_
  rintro world ⟨rfl, quiet⟩
  refine Ensures.bind (throwIfCanceled_quiet _) (fun _ => ?_) world quiet
  refine Ensures.bind (throwIfCanceled_quiet _) fun _ => ?_
  exact Ensures.bind (metaCallback_quiet _) fun _ => streams

theorem queryRealtime_quiet {fuel : Nat} (dataspec key : Bytes)
    (streams : Ensures (World.Quiet env delivered answered)
      (readRealtimeLoop (obligingJVLink readCount gets skip) collectingClient fuel {})
      post thrown) :
    Ensures (fun world => world.wrapper.isInitialized = true ∧
        World.Quiet env delivered answered world)
      (queryRealtime (obligingJVLink readCount gets skip) collectingClient dataspec key fuel)
      post thrown := by
  have invoked : Ensures (World.Quiet env delivered answered)
      (invokeMethod ((obligingJVLink readCount gets skip).jvrtOpen
        (convertUtf8ToBSTR dataspec) (convertUtf8ToBSTR key)))
      (fun reply world => reply = .long 0 ∧ World.Quiet env delivered answered world)
      fun _ _ => False := by
    refine Ensures.bind Ensures.read fun world => ?_
    rintro _ ⟨rfl, quiet⟩
    simp only [quiet.dispatch, if_true]
    exact ⟨rfl, quiet_settled _ _ _ world _ ⟨rfl, rfl, rfl, rfl, rfl, rfl⟩ quiet⟩
  have performed : Ensures (World.Quiet env delivered answered)
      (performJVRTOpen (obligingJVLink readCount gets skip) dataspec key)
      (fun code world => code = 0 ∧ World.Quiet env delivered answered world)
      fun _ _ => False := by
    refine Ensures.bind invoked fun reply => ?_
    rintro world ⟨rfl, quiet⟩
    exact ⟨rfl, quiet⟩
  have settledCode (code : Int) : Settled (fun world : World κ (List Bytes) =>
      code = 0 ∧ World.Quiet env delivered answered world) :=
    fun before after same holds => ⟨holds.1, quiet_settled _ _ _ before after same holds.2⟩
  have opens : Ensures (World.Quiet env delivered answered)
      (openRealtime (obligingJVLink readCount gets skip) dataspec key)
      (fun code world => code = 0 ∧ World.Quiet env delivered answered world) thrown :=
    Ensures.bind Ensures.peek fun world =>
      Ensures.ite (fun _ => performed.raise fun _ _ none => none.elim) fun _ =>
        invokeComCall_quiet performed settledCode _ _
  refine Ensures.bind Ensures.read fun world => ?_
  rintro _ ⟨rfl, initialized, quiet⟩
  simp only [initialized, Bool.not_true, Bool.false_eq_true, if_false]
  refine withSessionGuard_quiet settled settledThrown ?_ _ quiet
  refine Ensures.bind opens fun code => ?_
  rintro world ⟨rfl, quiet⟩
  refine Ensures.bind (throwIfCanceled_quiet _) (fun _ => ?_) world quiet
  refine Ensures.bind (throwIfCanceled_quiet _) fun _ => ?_
  exact Ensures.bind (metaCallback_quiet _) fun _ => streams

end Queries

end Methods

end Calls

end Obliging

end JVLinkServer.Core
