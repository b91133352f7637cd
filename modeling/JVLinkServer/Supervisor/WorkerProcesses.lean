import JVLinkServer.Supervisor.WorkerProcessManager

namespace JVLinkServer.Supervisor

open Effects

/-! # The worker processes

Windows as the manager sees it: processes run until they end by themselves, at any moment, or
are terminated, and their handles are open until they are closed.
-/

/-! ## Windows -/

/-- What decides everything else: which processes end by themselves, and all the answers. -/
structure Outside (δ : Type) where
  exits : δ → List Nat × δ
  bindLoopback : δ → Except String Nat × δ
  createProcess : (commandLine : Bytes) → δ → Option UInt32 × δ
  getHealth : (port : Nat) → δ → Option HealthReply × δ
  postShutdown : (port : Nat) → δ → Unit × δ
  exitCode : (process : Option Nat) → δ → UInt32 × δ
  deadlinePassed : δ → Bool × δ
  now : δ → Int × δ

/-- The handles of the process that the `index`-th successful call of `CreateProcess` started. -/
def processHandle (index : Nat) : Nat := 2 * index + 1

def threadHandle (index : Nat) : Nat := 2 * index + 2

/-- `created` counts the successful calls of `CreateProcess`, `running` has the processes that
have not ended, `closed` the arguments of `CloseHandle`, and `probed` the last request for
`/health` since a process was started. -/
structure Windows (δ : Type) where
  created : Nat := 0
  running : List Nat := []
  closed : List Nat := []
  probed : Option (Nat × Option HealthReply) := none
  outside : δ

/-- What `WaitForSingleObject` returns. -/
inductive WaitResult
  | object
  | timeout
  | failed
  deriving DecidableEq, Repr

namespace Windows

variable {δ α : Type} (outside : Outside δ)

/-- Processes may end before every call. -/
def exits (state : Windows δ) : Windows δ :=
  { state with
    running := state.running.filter fun process =>
      !(outside.exits state.outside).1.contains process
    outside := (outside.exits state.outside).2 }

def answer (question : δ → α × δ) (state : Windows δ) : α × Windows δ :=
  let state := state.exits outside
  ((question state.outside).1, { state with outside := (question state.outside).2 })

def isOpen (state : Windows δ) (handle : Nat) : Bool :=
  handle ≤ 2 * state.created && !state.closed.contains handle

/-- `WaitForSingleObject`, when its time is over. -/
def waitResult (process : Option Nat) (state : Windows δ) : WaitResult :=
  match process with
  | none => .failed
  | some handle =>
      if !state.isOpen handle then .failed
      else if state.running.contains handle then .timeout
      else .object

def environment : ManagerEnvironment (Windows δ) where
  bindLoopback := answer outside outside.bindLoopback
  createProcess commandLine state :=
    match answer outside (outside.createProcess commandLine) state with
    | (some lastError, state) => (.error lastError, state)
    | (none, state) =>
        (.ok (processHandle state.created, threadHandle state.created),
          { state with
            created := state.created + 1
            running := processHandle state.created :: state.running
            probed := none })
  getHealth port state :=
    let (reply, state) := answer outside (outside.getHealth port) state
    (reply, { state with probed := some (port, reply) })
  postShutdown port state := (answer outside (outside.postShutdown port) state).2
  hasExited process state :=
    let state := state.exits outside
    (decide (state.waitResult process = .object), state)
  timesOut process state :=
    let state := state.exits outside
    (decide (state.waitResult process = .timeout), state)
  terminateProcess process state :=
    let state := state.exits outside
    { state with
      running := state.running.filter fun handle =>
        !(some handle == process && state.isOpen handle) }
  exitCode process := answer outside (outside.exitCode process)
  closeHandle handle state :=
    let state := state.exits outside
    { state with closed := state.closed ++ [handle] }
  deadlinePassed := answer outside outside.deadlinePassed
  now := answer outside outside.now

end Windows

/-! ## What holds after every call -/

section Soundness

variable {δ : Type}

/-- The process has ended, and each of its handles was closed once. -/
structure Windows.Ended (state : Windows δ) (index : Nat) : Prop where
  stopped : processHandle index ∉ state.running
  process : state.closed.count (processHandle index) = 1
  thread : state.closed.count (threadHandle index) = 1

/-- Neither of the handles was closed. -/
structure Windows.Unclosed (state : Windows δ) (index : Nat) : Prop where
  process : state.closed.count (processHandle index) = 0
  thread : state.closed.count (threadHandle index) = 0

/-- `has_process_`, `worker_port_`, the handles and `generation_`, which wraps at 2^64, agree with
the processes. -/
structure WorkerProcessManager.Sound (manager : WorkerProcessManager) (state : Windows δ) :
    Prop where
  idle : manager.hasProcess = false → manager.workerPort = 0 ∧ manager.processInfo = {}
  busy : manager.hasProcess = true → 0 < manager.workerPort ∧
    ∃ last, state.created = last + 1 ∧ state.Unclosed last ∧
      manager.processInfo =
        { hProcess := some (processHandle last), hThread := some (threadHandle last) }
  earlier : ∀ index < state.created, (manager.hasProcess = true → index + 1 ≠ state.created) →
    state.Ended index
  later : ∀ index, state.created ≤ index → state.Unclosed index
  counted : manager.generation = UInt64.ofNat state.created

abbrev ManagerWorld.Sound (world : ManagerWorld (Windows δ)) : Prop :=
  world.manager.Sound world.env

/-- The worker is the process started last, and the last probe, which was of it, found it
healthy. -/
structure ManagerWorld.Ready (world : ManagerWorld (Windows δ)) : Prop where
  hasProcess : world.manager.hasProcess = true
  probed : ∃ reply, world.env.probed = some (world.manager.workerPort, reply) ∧
    world.manager.lastProbe = readProbe reply
  healthy : world.manager.lastProbe.healthy = true

end Soundness

/-! ## Quiet calls -/

namespace Windows

variable {δ α : Type} {outside : Outside δ} {before state after : Windows δ}

/-- Since then processes may have ended, and these handles were closed. -/
structure Since (before : Windows δ) (closings : List Nat) (after : Windows δ) : Prop where
  created : after.created = before.created
  closed : after.closed = before.closed ++ closings
  running : ∀ process ∈ after.running, process ∈ before.running

theorem Since.refl : before.Since [] before := ⟨rfl, (List.append_nil _).symm, fun _ => id⟩

theorem Since.trans {closings more : List Nat} (first : before.Since closings state)
    (second : state.Since more after) : before.Since (closings ++ more) after :=
  ⟨second.created.trans first.created,
    by rw [second.closed, first.closed, List.append_assoc],
    fun process running => first.running process (second.running process running)⟩

theorem since_exits : state.Since [] (state.exits outside) :=
  ⟨rfl, (List.append_nil _).symm, fun _ running => (List.mem_filter.mp running).1⟩

theorem since_answer (question : δ → α × δ) : state.Since [] (answer outside question state).2 :=
  since_exits.trans ⟨rfl, (List.append_nil _).symm, fun _ => id⟩

end Windows

/-! ## Steps of the manager -/

namespace WorkerProcessManager.Sound

variable {δ : Type} {manager : WorkerProcessManager} {before after : Windows δ}

theorem since (sound : manager.Sound before) (moved : before.Since [] after) :
    manager.Sound after := by
  have closed : after.closed = before.closed := moved.closed.trans (List.append_nil _)
  have unclosed {index : Nat} (unclosed : before.Unclosed index) : after.Unclosed index :=
    ⟨closed ▸ unclosed.process, closed ▸ unclosed.thread⟩
  refine ⟨sound.idle, fun held => ?_, fun index below other => ?_, fun index above => ?_, ?_⟩
  · obtain ⟨port, last, created, open_, handles⟩ := sound.busy held
    exact ⟨port, last, moved.created.trans created, unclosed open_, handles⟩
  · rw [moved.created] at below other
    have ended := sound.earlier index below other
    exact ⟨fun running => ended.stopped (moved.running _ running), closed ▸ ended.process,
      closed ▸ ended.thread⟩
  · exact unclosed (sound.later index (moved.created ▸ above))
  · rw [moved.created]
    exact sound.counted

theorem count_closings {closed : List Nat} {index last : Nat} :
    (closed ++ [threadHandle last, processHandle last]).count (processHandle index) =
        closed.count (processHandle index) + (if index = last then 1 else 0) ∧
      (closed ++ [threadHandle last, processHandle last]).count (threadHandle index) =
        closed.count (threadHandle index) + (if index = last then 1 else 0) := by
  have apart : threadHandle last ≠ processHandle index := by
    unfold threadHandle processHandle
    omega
  have apart' : processHandle last ≠ threadHandle index := by
    unfold threadHandle processHandle
    omega
  have same : threadHandle last = threadHandle index ↔ index = last := by
    unfold threadHandle
    omega
  have same' : processHandle last = processHandle index ↔ index = last := by
    unfold processHandle
    omega
  simp [List.count_append, List.count_cons, apart, apart', same, same']

/-- The process has ended and both its handles have been closed. -/
theorem reaped {last : Nat} (sound : manager.Sound before) (held : manager.hasProcess = true)
    (created : before.created = last + 1)
    (moved : before.Since [threadHandle last, processHandle last] after)
    (stopped : processHandle last ∉ after.running) (exitCode : UInt32) :
    (manager.closeProcess exitCode).Sound after := by
  obtain ⟨-, last', created', unclosed, -⟩ := sound.busy held
  obtain rfl : last' = last := by omega
  refine ⟨fun _ => ⟨rfl, rfl⟩, fun held => (by cases held), fun index below _ => ?_,
    fun index above => ?_, by rw [moved.created]; exact sound.counted⟩
  · rw [moved.created] at below
    by_cases same : index = last'
    · subst same
      refine ⟨stopped, ?_, ?_⟩
      · rw [moved.closed, count_closings.1, unclosed.process, if_pos rfl]
      · rw [moved.closed, count_closings.2, unclosed.thread, if_pos rfl]
    · have ended := sound.earlier index below fun _ => by omega
      refine ⟨fun running => ended.stopped (moved.running _ running), ?_, ?_⟩
      · rw [moved.closed, count_closings.1, ended.process, if_neg same]
      · rw [moved.closed, count_closings.2, ended.thread, if_neg same]
  · rw [moved.created] at above
    have untouched := sound.later index above
    have other : index ≠ last' := by omega
    refine ⟨?_, ?_⟩
    · rw [moved.closed, count_closings.1, untouched.process, if_neg other]
    · rw [moved.closed, count_closings.2, untouched.thread, if_neg other]

/-- A process has been started for an idle manager. -/
theorem adopted {port : Nat} (sound : manager.Sound before) (idle : manager.hasProcess = false)
    (positive : 0 < port) (created : after.created = before.created + 1)
    (closed : after.closed = before.closed)
    (running : ∀ process ∈ after.running,
      process = processHandle before.created ∨ process ∈ before.running)
    (reason : Bytes) (now : Int) :
    ({ manager with workerPort := port }.adopt
      (processHandle before.created, threadHandle before.created) reason now).Sound after := by
  refine ⟨fun idle => (by cases idle), fun _ => ⟨positive, before.created, created, ?_, rfl⟩,
    fun index below other => ?_, fun index above => ?_, ?_⟩
  · have fresh := sound.later before.created (Nat.le_refl _)
    exact ⟨closed ▸ fresh.process, closed ▸ fresh.thread⟩
  · have earlier : index < before.created := by
      have different := other rfl
      omega
    have ended := sound.earlier index earlier fun held => by simp [idle] at held
    refine ⟨fun started => ?_, closed ▸ ended.process, closed ▸ ended.thread⟩
    obtain same | started := running _ started
    · unfold processHandle at same
      omega
    · exact ended.stopped started
  · have fresh := sound.later index (by omega)
    exact ⟨closed ▸ fresh.process, closed ▸ fresh.thread⟩
  · change manager.generation + 1 = _
    rw [sound.counted, created, UInt64.ofNat_add]
    rfl

end WorkerProcessManager.Sound

section Calls

variable {δ : Type} {outside : Outside δ} {thrown : String → ManagerWorld (Windows δ) → Prop}

/-- Only processes end, and only these handles are closed. -/
structure ManagerWorld.Since (before : ManagerWorld (Windows δ)) (closings : List Nat)
    (after : ManagerWorld (Windows δ)) : Prop where
  manager : after.manager = before.manager
  env : before.env.Since closings after.env

/-- A predicate that stays true while processes end. -/
def Stable (kept : ManagerWorld (Windows δ) → Prop) : Prop :=
  ∀ before after, before.Since [] after → kept before → kept after

theorem stable_sound : Stable (ManagerWorld.Sound (δ := δ)) := by
  intro before after moved sound
  rw [ManagerWorld.Sound, moved.manager]
  exact sound.since moved.env

theorem stable_since {base : ManagerWorld (Windows δ)} {closings : List Nat} :
    Stable (base.Since closings) := by
  intro before after moved since
  refine ⟨moved.manager.trans since.manager, ?_⟩
  simpa using since.env.trans moved.env

theorem ManagerWorld.Since.exits {base world : ManagerWorld (Windows δ)} {closings : List Nat}
    (since : base.Since closings world) :
    base.Since closings { world with env := world.env.exits outside } :=
  stable_since world _ ⟨rfl, Windows.since_exits⟩ since

/-- The last process has ended, and some of its handles have been closed. -/
structure ManagerWorld.Reaping (base : ManagerWorld (Windows δ)) (last : Nat)
    (closings : List Nat) (after : ManagerWorld (Windows δ)) : Prop where
  since : base.Since closings after
  stopped : processHandle last ∉ after.env.running

theorem stable_reaping {base : ManagerWorld (Windows δ)} {last : Nat} {closings : List Nat} :
    Stable (base.Reaping last closings) := fun before after moved reaping =>
  ⟨stable_since before after moved reaping.since,
    fun running => reaping.stopped (moved.env.running _ running)⟩

/-- A question that starts no process and closes no handle. -/
theorem Stable.ask {α : Type} {kept : ManagerWorld (Windows δ) → Prop} (stable : Stable kept)
    {question : Windows δ → α × Windows δ}
    (quiet : ∀ state : Windows δ, state.Since [] (question state).2) :
    Ensures kept (ask question) (fun _ => kept) thrown :=
  fun world holds => stable world _ ⟨rfl, quiet world.env⟩ holds

theorem Stable.tell {kept : ManagerWorld (Windows δ) → Prop} (stable : Stable kept)
    {act : Windows δ → Windows δ} (quiet : ∀ state : Windows δ, state.Since [] (act state)) :
    Ensures kept (tell act) (fun _ => kept) thrown :=
  fun world holds => stable world _ ⟨rfl, quiet world.env⟩ holds

theorem closeHandle_reaping {base : ManagerWorld (Windows δ)} {last : Nat} {closings : List Nat}
    (handle : Nat) :
    Ensures (base.Reaping last closings) (closeHandle? (Windows.environment outside) (some handle))
      (fun _ => base.Reaping last (closings ++ [handle])) thrown := by
  intro world reaping
  have closed : world.env.Since [handle]
      ((Windows.environment outside).closeHandle handle world.env) :=
    Windows.since_exits.trans ⟨rfl, rfl, fun _ => id⟩
  exact ⟨⟨reaping.since.manager, reaping.since.env.trans closed⟩,
    fun running => reaping.stopped (closed.running _ running)⟩

/-- Closing both handles of a process that has ended reaps it. -/
theorem closeProcess_sound {base : ManagerWorld (Windows δ)} {last : Nat} (sound : base.Sound)
    (held : base.manager.hasProcess = true) (created : base.env.created = last + 1)
    (exitCode : UInt32) :
    Ensures (base.Reaping last [threadHandle last, processHandle last])
      (change (·.closeProcess exitCode))
      (fun _ after => after.Sound ∧ after.manager.hasProcess = false) thrown := by
  rintro world ⟨since, stopped⟩
  refine ⟨?_, rfl⟩
  change (world.manager.closeProcess exitCode).Sound world.env
  rw [since.manager]
  exact sound.reaped held created since.env stopped exitCode

theorem closeProcessHandlesLocked_reaping {base : ManagerWorld (Windows δ)} {last : Nat}
    (handles : base.manager.processInfo =
      { hProcess := some (processHandle last), hThread := some (threadHandle last) }) :
    Ensures (base.Reaping last [])
      (closeProcessHandlesLocked (Windows.environment outside) base.manager.processInfo)
      (fun _ => base.Reaping last [threadHandle last, processHandle last]) thrown := by
  rw [handles]
  exact Ensures.bind (closeHandle_reaping _) fun _ => closeHandle_reaping _

/-! ## The locked operations -/

theorem isOpen_held {state : Windows δ} {last : Nat} (created : state.created = last + 1)
    (unclosed : state.Unclosed last) : state.isOpen (processHandle last) = true := by
  have absent : processHandle last ∉ state.closed := List.count_eq_zero.mp unclosed.process
  have bound : processHandle last ≤ 2 * state.created := by
    unfold processHandle
    omega
  simp [Windows.isOpen, absent, bound]

/-- Waiting for the held process tells whether it is running. -/
theorem waitResult_held {state : Windows δ} {last : Nat} (created : state.created = last + 1)
    (unclosed : state.Unclosed last) :
    state.waitResult (some (processHandle last)) =
      if state.running.contains (processHandle last) then .timeout else .object := by
  simp [Windows.waitResult, isOpen_held created unclosed]

/-- What is known of the process that a manager holds. -/
structure ManagerWorld.Holds (base : ManagerWorld (Windows δ)) (last : Nat) : Prop where
  sound : base.Sound
  held : base.manager.hasProcess = true
  created : base.env.created = last + 1
  unclosed : base.env.Unclosed last
  handles : base.manager.processInfo =
    { hProcess := some (processHandle last), hThread := some (threadHandle last) }

theorem ManagerWorld.Sound.holds {base : ManagerWorld (Windows δ)} (sound : base.Sound)
    (held : base.manager.hasProcess = true) : ∃ last, base.Holds last := by
  obtain ⟨-, last, created, unclosed, handles⟩ := sound.busy held
  exact ⟨last, sound, held, created, unclosed, handles⟩

theorem ManagerWorld.Holds.opened {base : ManagerWorld (Windows δ)} {last : Nat}
    (holds : base.Holds last) {state : Windows δ} (since : base.env.Since [] state) :
    state.created = last + 1 ∧ state.Unclosed last := by
  have same : state.closed = base.env.closed := since.closed.trans (List.append_nil _)
  exact ⟨since.created.trans holds.created, same ▸ holds.unclosed.process,
    same ▸ holds.unclosed.thread⟩

theorem hasExited_held {base : ManagerWorld (Windows δ)} {last : Nat} (holds : base.Holds last) :
    Ensures (base.Since [])
      (ask ((Windows.environment outside).hasExited base.manager.processInfo.hProcess))
      (fun exited after => base.Since [] after ∧
        (exited = true → processHandle last ∉ after.env.running)) thrown := by
  rw [holds.handles]
  intro world since
  have moved : base.Since [] { world with env := world.env.exits outside } := since.exits
  refine ⟨moved, fun exited running => ?_⟩
  have waited := of_decide_eq_true exited
  obtain ⟨created, unclosed⟩ := holds.opened moved.env
  have still : (world.env.exits outside).running.contains (processHandle last) = true :=
    List.contains_iff_mem.mpr running
  rw [waitResult_held created unclosed, if_pos still] at waited
  cases waited

theorem hasExitedLocked_sound :
    Ensures ManagerWorld.Sound (hasExitedLocked (Windows.environment outside))
      (fun exited after => after.Sound ∧ after.manager.hasProcess = !exited) thrown := by
  refine Ensures.bind Ensures.read fun base => ?_
  refine Ensures.ite (fun idle => Ensures.pure ?_) fun held => ?_
  · rintro _ ⟨rfl, sound⟩
    exact ⟨sound, by simpa using idle⟩
  refine Ensures.knowing base.Sound (fun _ known => known.1 ▸ known.2) fun sound => ?_
  obtain ⟨last, holds⟩ := sound.holds (by simpa using held)
  refine Ensures.bind ((hasExited_held holds).mono ?_ (fun _ _ => id) fun _ _ => id)
    fun exited => ?_
  · rintro _ ⟨rfl, -⟩
    exact ⟨rfl, Windows.Since.refl⟩
  refine Ensures.ite (fun running => Ensures.pure ?_) fun ended => ?_
  · rintro after ⟨since, -⟩
    exact ⟨stable_sound _ _ since sound, by simp [since.manager, holds.held]⟩
  refine Ensures.seq (fun _ => base.Reaping last [])
    ((stable_reaping.ask fun _ => Windows.since_answer _).mono ?_ (fun _ _ => id) fun _ _ => id)
    fun exitCode => ?_
  · rintro after ⟨since, stopped⟩
    exact ⟨since, stopped (by simpa using ended)⟩
  refine Ensures.bind (closeProcessHandlesLocked_reaping holds.handles) fun _ => ?_
  refine Ensures.bind (closeProcess_sound sound holds.held holds.created exitCode) fun _ => ?_
  exact Ensures.pure fun after reaped => reaped

theorem hasLiveProcessLocked_sound :
    Ensures ManagerWorld.Sound (hasLiveProcessLocked (Windows.environment outside))
      (fun live after => after.Sound ∧ after.manager.hasProcess = live) thrown := by
  refine Ensures.bind Ensures.read fun base => ?_
  refine Ensures.ite (fun idle => Ensures.pure ?_) fun held => ?_
  · rintro _ ⟨rfl, sound⟩
    exact ⟨sound, by simpa using idle⟩
  refine Ensures.bind (hasExitedLocked_sound.mono (fun _ known => known.2) (fun _ _ => id)
    fun _ _ => id) fun exited => ?_
  exact Ensures.pure fun after reaped => reaped

/-- After the wait and, if that was in vain, the termination the process has ended. -/
theorem awaitExitLocked_reaping {base : ManagerWorld (Windows δ)} {last : Nat}
    (holds : base.Holds last) :
    Ensures (base.Since [])
      (awaitExitLocked (Windows.environment outside) base.manager.processInfo.hProcess)
      (fun _ => base.Reaping last []) thrown := by
  rw [holds.handles]
  refine Ensures.seq (fun timedOut after => base.Since [] after ∧
    (timedOut = false → processHandle last ∉ after.env.running)) ?_ fun timedOut => ?_
  · intro world since
    have waited : base.Since [] { world with env := world.env.exits outside } := since.exits
    refine ⟨waited, fun inTime running => ?_⟩
    have result := of_decide_eq_false inTime
    obtain ⟨created, unclosed⟩ := holds.opened waited.env
    have still : (world.env.exits outside).running.contains (processHandle last) = true :=
      List.contains_iff_mem.mpr running
    rw [waitResult_held created unclosed, if_pos still] at result
    exact result rfl
  refine Ensures.ite (fun timedOut => ?_) fun inTime => Ensures.pure ?_
  · rintro world ⟨since, -⟩
    have moved : base.Since [] { world with env := world.env.exits outside } := since.exits
    obtain ⟨created, unclosed⟩ := holds.opened moved.env
    refine ⟨⟨since.manager, moved.env.created, moved.env.closed, ?_⟩, fun running => ?_⟩
    · exact fun process running => moved.env.running _ (List.mem_filter.mp running).1
    · have spared := (List.mem_filter.mp running).2
      simp [isOpen_held created unclosed] at spared
  · rintro world ⟨since, stopped⟩
    exact ⟨since, stopped (by simpa using inTime)⟩

theorem stopWorkerLocked_sound (reason : StopReason) :
    Ensures ManagerWorld.Sound (stopWorkerLocked (Windows.environment outside) reason)
      (fun _ after => after.Sound ∧ after.manager.hasProcess = false) thrown := by
  refine Ensures.bind Ensures.read fun base => ?_
  refine Ensures.ite (fun idle => Ensures.pure ?_) fun held => ?_
  · rintro _ ⟨rfl, sound⟩
    exact ⟨sound, by simpa using idle⟩
  refine Ensures.knowing base.Sound (fun _ known => known.1 ▸ known.2) fun sound => ?_
  obtain ⟨last, holds⟩ := sound.holds (by simpa using held)
  refine Ensures.seq (fun _ => base.Since []) (Ensures.update ?_) fun _ => ?_
  · rintro _ ⟨rfl, -⟩
    exact ⟨rfl, Windows.Since.refl⟩
  refine Ensures.bind (stable_since.tell fun _ => Windows.since_answer _) fun _ => ?_
  refine Ensures.bind (awaitExitLocked_reaping holds) fun _ => ?_
  refine Ensures.bind (stable_reaping.ask fun _ => Windows.since_answer _) fun exitCode => ?_
  refine Ensures.bind (closeProcessHandlesLocked_reaping holds.handles) fun _ => ?_
  exact closeProcess_sound sound holds.held holds.created exitCode

/-- A probe that was answered, of the worker that is held. -/
structure ManagerWorld.Probed (probe : WorkerProbeResult) (world : ManagerWorld (Windows δ)) :
    Prop where
  hasProcess : world.manager.hasProcess = true
  reply : ∃ reply, world.env.probed = some (world.manager.workerPort, reply) ∧
    probe = readProbe reply

/-- What a probe comes to. -/
def ProbeEnds (probe : WorkerProbeResult) (after : ManagerWorld (Windows δ)) : Prop :=
  after.Sound ∧ (probe.healthy = true → after.Probed probe)

theorem probeWorkerLocked_sound :
    Ensures ManagerWorld.Sound (probeWorkerLocked (Windows.environment outside))
      ProbeEnds thrown := by
  refine Ensures.bind Ensures.read fun base => ?_
  refine Ensures.ite (fun idle => Ensures.pure ?_) fun held => ?_
  · rintro _ ⟨rfl, sound⟩
    exact ⟨sound, fun healthy => by cases healthy⟩
  have held : base.manager.hasProcess = true := by
    simp only [Bool.or_eq_true, not_or] at held
    simpa using held.1
  refine Ensures.seq (fun reply after => after.Sound ∧ after.manager.hasProcess = true ∧
    after.env.probed = some (after.manager.workerPort, reply)) ?_ fun reply => Ensures.pure ?_
  · rintro _ ⟨rfl, sound⟩
    have quiet : base.env.Since []
        ((Windows.environment outside).getHealth base.manager.workerPort base.env).2 :=
      (Windows.since_answer (outside.getHealth base.manager.workerPort)).trans
        ⟨rfl, (List.append_nil _).symm, fun _ => id⟩
    exact ⟨stable_sound base _ ⟨rfl, quiet⟩ sound, held, rfl⟩
  · rintro after ⟨sound, held, probed⟩
    exact ⟨sound, fun _ => ⟨held, reply, probed, rfl⟩⟩

theorem waitForHealthyRounds_sound (rounds : Nat) {lastProbe : WorkerProbeResult}
    (unhealthy : lastProbe.healthy = false) :
    Ensures ManagerWorld.Sound
      (waitForHealthyRounds (Windows.environment outside) rounds lastProbe) ProbeEnds thrown := by
  have givesUp {world : ManagerWorld (Windows δ)} (status : Bytes) (sound : world.Sound) :
      ProbeEnds { lastProbe with status } world :=
    ⟨sound, fun healthy => by simp [unhealthy] at healthy⟩
  induction rounds generalizing lastProbe with
  | zero => exact Ensures.pure fun _ => givesUp _
  | succ rounds ih =>
      refine Ensures.bind (stable_sound.ask fun _ => Windows.since_answer _) fun passed => ?_
      refine Ensures.ite (fun _ => Ensures.pure fun _ => givesUp _) fun _ => ?_
      refine Ensures.bind hasLiveProcessLocked_sound fun live => ?_
      refine Ensures.ite (fun _ => Ensures.pure fun _ kept => givesUp _ kept.1) fun _ => ?_
      refine Ensures.bind (probeWorkerLocked_sound.mono (fun _ kept => kept.1) (fun _ _ => id)
        fun _ _ => id) fun probe => ?_
      refine Ensures.ite (fun _ => Ensures.pure fun _ => id) fun failed => ?_
      have failed : probe.healthy = false := by simpa using failed
      exact (ih failed fun status sound => ⟨sound, fun healthy => by simp [failed] at healthy⟩).mono
        (fun _ kept => kept.1) (fun _ _ => id) fun _ _ => id

theorem status_of_healthy {reply : Option HealthReply} (healthy : (readProbe reply).healthy = true) :
    (readProbe reply).status = utf8 "healthy" := by
  cases reply with
  | none => cases healthy
  | some reply => exact of_decide_eq_true (Bool.and_eq_true_iff.mp healthy).2

theorem waitForHealthyWorkerLocked_sound :
    Ensures ManagerWorld.Sound (waitForHealthyWorkerLocked (Windows.environment outside))
      ProbeEnds thrown := by
  refine Ensures.bind Ensures.peek fun base => ?_
  refine Ensures.bind (waitForHealthyRounds_sound _ rfl) fun probe => ?_
  refine Ensures.ite (fun unreachable => Ensures.pure ?_) fun _ => Ensures.pure fun _ => id
  rintro after ⟨sound, probed⟩
  refine ⟨sound, fun healthy => ?_⟩
  obtain ⟨-, reply, -, rfl⟩ := probed healthy
  rw [status_of_healthy healthy] at unreachable
  exact absurd ((utf8_inj _ _).mp unreachable) (by decide)

/-- A probe of the worker, kept in `last_probe_`. -/
theorem keepProbe_sound (probe : WorkerProbeResult) :
    Ensures (ProbeEnds (δ := δ) probe) (change fun manager => { manager with lastProbe := probe })
      (fun _ after => after.Sound ∧ (probe.healthy = true → after.Ready)) thrown := by
  rintro world ⟨sound, probed⟩
  refine ⟨⟨sound.idle, sound.busy, sound.earlier, sound.later, sound.counted⟩, fun healthy => ?_⟩
  exact ⟨(probed healthy).hasProcess, (probed healthy).reply, healthy⟩

/-- Nothing is held, and a port has been allocated. -/
structure ManagerWorld.Launching (port : Nat) (world : ManagerWorld (Windows δ)) : Prop where
  sound : ({ world.manager with workerPort := 0 }).Sound world.env
  idle : world.manager.hasProcess = false
  allocated : world.manager.workerPort = port
  positive : 0 < port

theorem stable_launching {port : Nat} : Stable (ManagerWorld.Launching (δ := δ) port) := by
  rintro before after moved ⟨sound, idle, same, positive⟩
  refine ⟨?_, by rw [moved.manager, idle], by rw [moved.manager, same], positive⟩
  rw [moved.manager]
  exact sound.since moved.env

/-- A process has been started that the manager does not hold yet. -/
structure ManagerWorld.Launched (port : Nat) (process : Nat × Nat)
    (world : ManagerWorld (Windows δ)) : Prop where
  idle : world.manager.hasProcess = false
  allocated : world.manager.workerPort = port
  positive : 0 < port
  started : ∃ before : Windows δ, ({ world.manager with workerPort := 0 }).Sound before ∧
    process = (processHandle before.created, threadHandle before.created) ∧
    world.env.created = before.created + 1 ∧ world.env.closed = before.closed ∧
    ∀ handle ∈ world.env.running,
      handle = processHandle before.created ∨ handle ∈ before.running

theorem stable_launched {port : Nat} {process : Nat × Nat} :
    Stable (ManagerWorld.Launched (δ := δ) port process) := by
  rintro before after moved ⟨idle, same, positive, earlier, sound, handles, created, closed, running⟩
  refine ⟨by rw [moved.manager, idle], by rw [moved.manager, same], positive, earlier, ?_, handles,
    moved.env.created.trans created, ?_, fun handle member =>
    running handle (moved.env.running handle member)⟩
  · rw [moved.manager]
    exact sound
  · exact (moved.env.closed.trans (List.append_nil _)).trans closed

theorem createProcess_launched {port : Nat} (commandLine : Bytes) :
    Ensures (ManagerWorld.Launching port)
      (ask ((Windows.environment outside).createProcess commandLine))
      (fun created after => match created with
        | .error _ => after.Launching port
        | .ok process => after.Launched port process) thrown := by
  intro world launching
  have moved : ∀ state, (Windows.answer outside (outside.createProcess commandLine) world.env).2 =
      state → ManagerWorld.Launching port { world with env := state } := by
    rintro _ rfl
    exact stable_launching world _ ⟨rfl, Windows.since_answer _⟩ launching
  have created : (Windows.environment outside).createProcess commandLine world.env =
      match Windows.answer outside (outside.createProcess commandLine) world.env with
      | (some lastError, state) => (.error lastError, state)
      | (none, state) =>
          (.ok (processHandle state.created, threadHandle state.created),
            { state with
              created := state.created + 1
              running := processHandle state.created :: state.running
              probed := none }) := rfl
  change Ends _ _ (.ok ((Windows.environment outside).createProcess commandLine world.env).1
    { world with env := ((Windows.environment outside).createProcess commandLine world.env).2 })
  rw [created]
  cases answered : Windows.answer outside (outside.createProcess commandLine) world.env with
  | mk lastError state =>
      obtain ⟨sound, idle, allocated, positive⟩ := moved state (by rw [answered])
      cases lastError with
      | some lastError => exact ⟨sound, idle, allocated, positive⟩
      | none =>
          exact ⟨idle, allocated, positive, state, sound, rfl, rfl, rfl,
            fun handle member => List.mem_cons.mp member⟩

theorem allocateLoopbackPort_sound :
    Ensures (fun world => ManagerWorld.Sound world ∧ world.manager.hasProcess = false)
      (allocateLoopbackPort (Windows.environment outside))
      (fun port after => after.Sound ∧ after.manager.hasProcess = false ∧ 0 < port)
      (fun _ => ManagerWorld.Sound (δ := δ)) := by
  have stable : Stable fun world : ManagerWorld (Windows δ) =>
      world.Sound ∧ world.manager.hasProcess = false := fun before after moved kept =>
    ⟨stable_sound before after moved kept.1, by rw [moved.manager, kept.2]⟩
  have refuses : Ensures (fun world : ManagerWorld (Windows δ) =>
      world.Sound ∧ world.manager.hasProcess = false) (update ManagerWorld.refuse)
      (fun _ => ManagerWorld.Sound) (fun (_ : String) => ManagerWorld.Sound) :=
    Ensures.update fun _ kept => kept.1
  refine Ensures.bind (stable.ask fun _ => Windows.since_answer _) fun allocated => ?_
  cases allocated with
  | error message => exact Ensures.bind refuses fun _ => Ensures.throw fun _ => id
  | ok port =>
      refine Ensures.ite (fun _ => ?_) fun positive => Ensures.pure fun _ kept =>
        ⟨kept.1, kept.2, Nat.pos_of_ne_zero positive⟩
      refine Ensures.bind refuses fun _ => ?_
      exact Ensures.bind (Ensures.throw fun _ => id) fun _ => Ensures.vacuous

/-- Whether the worker is ready, and only then, if the operation says so. -/
def ReadyEnds (ready : Bool) (after : ManagerWorld (Windows δ)) : Prop :=
  after.Sound ∧ (ready = true → after.Ready)

theorem startWorkerLocked_sound (reason : Bytes) :
    Ensures (fun world => ManagerWorld.Sound world ∧ world.manager.hasProcess = false)
      (startWorkerLocked (Windows.environment outside) reason) ReadyEnds
      (fun _ => ManagerWorld.Sound (δ := δ)) := by
  refine Ensures.bind Ensures.read fun base => ?_
  refine Ensures.ite (fun held => ?_) fun _ => ?_
  · rintro _ ⟨rfl, -, idle⟩
    simp [idle] at held
  refine Ensures.bind (allocateLoopbackPort_sound.mono (fun _ known => known.2) (fun _ _ => id)
    fun _ _ => id) fun port => ?_
  refine Ensures.seq (fun _ => ManagerWorld.Launching port) (Ensures.update ?_) fun _ => ?_
  · rintro world ⟨sound, idle, positive⟩
    exact ⟨⟨fun _ => ⟨rfl, (sound.idle idle).2⟩, fun held => absurd (idle.symm.trans held)
      Bool.false_ne_true, sound.earlier, sound.later, sound.counted⟩, idle, rfl, positive⟩
  refine Ensures.bind Ensures.peek fun launching => ?_
  refine Ensures.bind (createProcess_launched _) fun created => ?_
  cases created with
  | error lastError =>
      refine Ensures.seq (fun _ => ManagerWorld.Launching port) (Ensures.update ?_) fun _ => ?_
      · rintro world ⟨sound, idle, allocated, positive⟩
        exact ⟨sound, idle, allocated, positive⟩
      refine Ensures.bind (stable_launching.ask fun _ => Windows.since_answer _) fun now => ?_
      refine Ensures.seq (fun _ => ManagerWorld.Sound) (Ensures.update ?_) fun _ => ?_
      · rintro world ⟨sound, -, -, -⟩
        exact ⟨sound.idle, sound.busy, sound.earlier, sound.later, sound.counted⟩
      exact Ensures.pure fun _ sound => ⟨sound, fun ready => by cases ready⟩
  | ok process =>
      refine Ensures.bind (stable_launched.ask fun _ => Windows.since_answer _) fun now => ?_
      refine Ensures.seq (fun _ => ManagerWorld.Sound) (Ensures.update ?_) fun _ => ?_
      · rintro world ⟨idle, rfl, positive, earlier, sound, rfl, created, closed, running⟩
        exact sound.adopted idle positive created closed running reason now
      refine Ensures.bind waitForHealthyWorkerLocked_sound fun probe => ?_
      refine Ensures.bind (keepProbe_sound probe) fun _ => ?_
      refine Ensures.ite (fun failed => ?_) fun healthy => Ensures.pure ?_
      · refine Ensures.bind ((stopWorkerLocked_sound _).mono (fun _ kept => kept.1)
          (fun _ _ => id) fun _ _ => id) fun _ => ?_
        exact Ensures.pure fun _ stopped => ⟨stopped.1, fun ready => by cases ready⟩
      · rintro after ⟨sound, ready⟩
        exact ⟨sound, fun _ => ready (by simpa using healthy)⟩

theorem restartWorkerLocked_sound (reason : Bytes) :
    Ensures ManagerWorld.Sound (restartWorkerLocked (Windows.environment outside) reason) ReadyEnds
      (fun _ => ManagerWorld.Sound (δ := δ)) :=
  Ensures.bind (stopWorkerLocked_sound _) fun _ => startWorkerLocked_sound reason

/-! ## The public operations -/

theorem ensureWorkerReady_sound :
    Ensures ManagerWorld.Sound (ensureWorkerReady (Windows.environment outside)) ReadyEnds
      (fun _ => ManagerWorld.Sound (δ := δ)) := by
  refine Ensures.bind hasLiveProcessLocked_sound fun live => ?_
  refine Ensures.ite (fun dead => ?_) fun _ => ?_
  · refine (startWorkerLocked_sound _).mono (fun world kept => ?_) (fun _ _ => id) fun _ _ => id
    exact ⟨kept.1, kept.2.trans (by simpa using dead)⟩
  refine Ensures.bind (probeWorkerLocked_sound.mono (fun _ kept => kept.1) (fun _ _ => id)
    fun _ _ => id) fun probe => ?_
  refine Ensures.bind (keepProbe_sound probe) fun _ => ?_
  refine Ensures.ite (fun healthy => Ensures.pure fun _ kept =>
    ⟨kept.1, fun _ => kept.2 healthy⟩) fun _ => ?_
  exact (restartWorkerLocked_sound _).mono (fun _ kept => kept.1) (fun _ _ => id) fun _ _ => id

theorem restart_sound (reason : Bytes) :
    Keeps ManagerWorld.Sound (restart (Windows.environment outside) reason) :=
  Ensures.bind (restartWorkerLocked_sound reason) fun _ => Ensures.pure fun _ kept => kept.1

theorem stop_sound : Keeps ManagerWorld.Sound (stop (Windows.environment outside)) :=
  (stopWorkerLocked_sound _).mono (fun _ => id) (fun _ _ kept => kept.1) fun _ _ => id

theorem restartIfWorkerUnhealthy_sound (reason : Bytes) :
    Keeps ManagerWorld.Sound
      (restartIfWorkerUnhealthy (Windows.environment outside) reason) := by
  refine Ensures.bind hasLiveProcessLocked_sound fun live => ?_
  refine Ensures.ite (fun _ => ?_) fun _ => ?_
  · exact (restart_sound _).mono (fun _ kept => kept.1) (fun _ _ => id) fun _ _ => id
  refine Ensures.bind (probeWorkerLocked_sound.mono (fun _ kept => kept.1) (fun _ _ => id)
    fun _ _ => id) fun probe => ?_
  refine Ensures.bind (keepProbe_sound probe) fun _ => ?_
  refine Ensures.ite (fun _ => ?_) fun _ => Ensures.pure fun _ kept => kept.1
  exact (restart_sound _).mono (fun _ kept => kept.1) (fun _ _ => id) fun _ _ => id

theorem snapshot_sound : Keeps ManagerWorld.Sound (snapshot (Windows.environment outside)) := by
  have noticed : Keeps ManagerWorld.Sound (noticeExitLocked (Windows.environment outside)) := by
    refine Keeps.bind Ensures.peek fun world => Keeps.ite ?_ (Keeps.pure _)
    exact Ensures.bind hasExitedLocked_sound fun _ => Ensures.pure fun _ kept => kept.1
  have probed : Ensures ManagerWorld.Sound (snapshotProbeLocked (Windows.environment outside))
      ProbeEnds (fun _ => ManagerWorld.Sound (δ := δ)) := by
    refine Ensures.bind Ensures.peek fun world => Ensures.ite
      (fun _ => probeWorkerLocked_sound) fun _ => Ensures.pure fun _ sound => ?_
    exact ⟨sound, fun healthy => by cases healthy⟩
  refine Keeps.bind noticed fun _ => ?_
  refine Keeps.bind Ensures.peek fun world => ?_
  refine Ensures.bind probed fun probe => ?_
  refine Ensures.bind (keepProbe_sound probe) fun _ => ?_
  exact Ensures.pure fun _ kept => kept.1

end Calls

/-! ## Runs -/

/-- A call of a public operation. -/
inductive ManagerOperation
  | ensureWorkerReady
  | restart (reason : Bytes)
  | restartIfWorkerUnhealthy (reason : Bytes)
  | snapshot
  | stop
  deriving DecidableEq, Repr

section Runs

variable {κ : Type} (env : ManagerEnvironment κ)

/-- The world after a call, whether it returned or threw. -/
def ManagerOperation.after : ManagerOperation → ManagerWorld κ → ManagerWorld κ
  | .ensureWorkerReady, world => finalState (Supervisor.ensureWorkerReady env world)
  | .restart reason, world => finalState (Supervisor.restart env reason world)
  | .restartIfWorkerUnhealthy reason, world =>
      finalState (Supervisor.restartIfWorkerUnhealthy env reason world)
  | .snapshot, world => finalState (Supervisor.snapshot env world)
  | .stop, world => finalState (Supervisor.stop env world)

def afterCalls (calls : List ManagerOperation) (world : ManagerWorld κ) : ManagerWorld κ :=
  calls.foldl (fun world call => call.after env world) world

end Runs

section Run

variable {δ : Type} (outside : Outside δ)

theorem ManagerOperation.after_sound {world : ManagerWorld (Windows δ)} (sound : world.Sound)
    (call : ManagerOperation) : (call.after (Windows.environment outside) world).Sound := by
  cases call with
  | ensureWorkerReady =>
      exact ((ensureWorkerReady_sound world sound).mono (fun _ _ kept => kept.1)
        fun _ _ => id).finalState
  | restart reason => exact (restart_sound reason world sound).finalState
  | restartIfWorkerUnhealthy reason =>
      exact (restartIfWorkerUnhealthy_sound reason world sound).finalState
  | snapshot => exact (snapshot_sound world sound).finalState
  | stop => exact (stop_sound world sound).finalState

theorem afterCalls_sound (calls : List ManagerOperation) {world : ManagerWorld (Windows δ)}
    (sound : world.Sound) : (afterCalls (Windows.environment outside) calls world).Sound := by
  induction calls generalizing world with
  | nil => exact sound
  | cons call calls ih => exact ih (call.after_sound outside sound)

/-- A manager that has not been called yet. -/
def freshManager (sid logLevel executablePath : Bytes) (startupTimeoutSec : Nat) (rest : δ) :
    ManagerWorld (Windows δ) where
  manager := { sid, logLevel, executablePath, startupTimeoutSec }
  env := { outside := rest }

/-- After every sequence of calls the manager's state agrees with the processes: it holds the
one that was started last or none, and every other has ended and was given back. -/
theorem manager_sound (sid logLevel executablePath : Bytes) (startupTimeoutSec : Nat) (rest : δ)
    (calls : List ManagerOperation) :
    let world := afterCalls (Windows.environment outside) calls
      (freshManager sid logLevel executablePath startupTimeoutSec rest)
    world.Sound ∧
      (returned? (ensureWorkerReady (Windows.environment outside) world) = some true →
        (ManagerOperation.ensureWorkerReady.after (Windows.environment outside) world).Ready) := by
  intro world
  have sound : world.Sound := by
    apply afterCalls_sound
    refine ⟨fun _ => ⟨rfl, rfl⟩, fun held => ?_, fun _ below => ?_, fun _ _ => ⟨rfl, rfl⟩, rfl⟩
    · cases held
    · exact absurd below (Nat.not_lt_zero _)
  refine ⟨sound, fun returned => ?_⟩
  have ended : Ends ReadyEnds (fun _ => ManagerWorld.Sound)
      (ensureWorkerReady (Windows.environment outside) world) := ensureWorkerReady_sound world sound
  rw [ok_of_returned returned] at ended
  exact ended.2 rfl

end Run

/-- A world in which every worker is healthy. -/
def healthyWorkers : Outside Unit where
  exits _ := ([], ())
  bindLoopback _ := (.ok 50000, ())
  createProcess _ _ := (none, ())
  getHealth _ _ := (some { status := 200, body := [] }, ())
  postShutdown _ _ := ((), ())
  exitCode _ _ := (0, ())
  deadlinePassed _ := (false, ())
  now _ := (1700000000, ())

theorem manager_sound_healthy :
    (ManagerOperation.ensureWorkerReady.after (Windows.environment healthyWorkers)
      (afterCalls (Windows.environment healthyWorkers) [.restart [], .stop]
        (freshManager [] [] [] 30 ()))).Ready :=
  (manager_sound healthyWorkers [] [] [] 30 () [.restart [], .stop]).2 rfl

end JVLinkServer.Supervisor
