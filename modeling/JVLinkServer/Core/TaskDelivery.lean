import JVLinkServer.Core.TaskQueue

namespace JVLinkServer.Core

open Transition

/-! # No accepted task is lost

A push after the last swap would need a test under the mutex that saw tasks accepted, and
`stop` withdraws acceptance before it posts the message that leads to that swap.
-/

def PostPhase.holdsMutex : PostPhase → Bool
  | .retesting _ | .pushing | .unlocking => true
  | _ => false

def PostPhase.pushed : PostPhase → Bool
  | .unlocking | .returned true => true
  | _ => false

/-- The tasks that the thread has taken from the queue and not executed. -/
def ThreadPhase.batch : ThreadPhase → List Nat
  | .executing tasks _ => tasks
  | _ => []

/-- The last swap has been made. -/
def ThreadPhase.final : ThreadPhase → Bool
  | .executing _ last => last
  | .quitting | .left => true
  | _ => false

/-! ## What a step can do -/

inductive TaskStep (state : TaskState) : TaskState → Prop
  | outside {call phase} (mutex : (state.posts call).holdsMutex = false)
      (pushed : (state.posts call).pushed = false) (mutexAfter : phase.holdsMutex = false)
      (pushedAfter : phase.pushed = false) : TaskStep state (state.setPost call phase)
  | acquires {call} (phase : state.posts call = .acquiring) (free : state.taskMutex = none) :
      TaskStep state { state.setPost call (.retesting 0) with taskMutex := some call }
  | passes {call passed} (phase : state.posts call = .retesting passed)
      (lets : state.worker.lets passed = true) (more : passed < 2) :
      TaskStep state (state.setPost call (.retesting (passed + 1)))
  | settles {call passed} (phase : state.posts call = .retesting passed)
      (enough : ¬ passed < 2) : TaskStep state (state.setPost call .pushing)
  | refuses {call passed} (phase : state.posts call = .retesting passed) :
      TaskStep state { state.setPost call (.returned false) with taskMutex := none }
  | pushes {call} (phase : state.posts call = .pushing) :
      TaskStep state { state.setPost call .unlocking with
        taskQueue := state.taskQueue ++ [call]
        accepted := state.accepted ++ [call] }
  | unlocks {call} (phase : state.posts call = .unlocking) :
      TaskStep state { state.setPost call (.returned true) with taskMutex := none }
  | faults {call phase} {worker : ComThreadWorker} (running : worker.running = state.worker.running)
      (accepting : worker.acceptingTasks = true → state.worker.acceptingTasks = true) :
      TaskStep state { state.setFault call phase with worker }
  | stopEnters {call phase} (after : phase = .returned ∨ phase = .withdrawing) :
      TaskStep state (state.setStop call phase)
  | stopWithdraws {call} :
      TaskStep state ((state.setStop call .posting).setWorker fun worker =>
        { worker with acceptingTasks := false })
  | stopPosts {call} (phase : state.stops call = .posting) :
      TaskStep state { state.setStop call .joining with
        quitPosted := state.quitPosted || state.thread != .left }
  | stopJoins {call} (left : state.thread = .left) :
      TaskStep state { state.setStop call .clearing with joinable := false }
  | stopClears {call} (phase : state.stops call = .clearing) :
      TaskStep state ((state.setStop call .returned).setWorker fun worker =>
        { worker with running := false })
  | loops (phase : state.thread = .looping) (running : state.worker.running = true) :
      TaskStep state { state with thread := .swapping false }
  | leaves (phase : state.thread = .looping) (stopped : state.worker.running = false) :
      TaskStep state { state with thread := .left }
  | swaps {last} (phase : state.thread = .swapping last) (free : state.taskMutex = none) :
      TaskStep state { state with taskQueue := [], thread := .executing state.taskQueue last }
  | finishes (phase : state.thread = .executing [] false) :
      TaskStep state { state with thread := .peeking }
  | finishesLast (phase : state.thread = .executing [] true) :
      TaskStep state { state with thread := .quitting }
  | executes {task tasks last} (phase : state.thread = .executing (task :: tasks) last) :
      TaskStep state { state with thread := .executing tasks last, ran := state.ran ++ [task] }
  | idles {phase} (before : state.thread = .peeking ∨ state.thread = .waiting)
      (after : phase = .peeking ∨ phase = .waiting ∨ phase = .looping) :
      TaskStep state { state with thread := phase }
  | seesQuit (phase : state.thread = .peeking) (posted : state.quitPosted = true) :
      TaskStep state { state with thread := .swapping true }
  | quits (phase : state.thread = .quitting) :
      TaskStep state { state.setWorker fun worker => { worker with running := false } with
        thread := .looping }

theorem TaskState.post_cases {state next : TaskState} {call : Nat}
    (taken : state.post call = some next) : TaskStep state next := by
  unfold TaskState.post at taken
  cases phase : state.posts call with
  | absent =>
      simp only [phase, Option.some.injEq] at taken
      subst next
      exact .outside (by simp [phase, PostPhase.holdsMutex]) (by simp [phase, PostPhase.pushed])
        rfl rfl
  | testing passed =>
      simp only [phase, Option.some.injEq] at taken
      subst next
      refine .outside (by simp [phase, PostPhase.holdsMutex]) (by simp [phase, PostPhase.pushed])
        ?_ ?_
      · split
        · rfl
        · split <;> rfl
      · split
        · rfl
        · split <;> rfl
  | acquiring =>
      simp only [phase] at taken
      split at taken
      · next free =>
          cases taken
          exact .acquires phase free
      · contradiction
  | retesting passed =>
      simp only [phase] at taken
      split at taken
      · cases taken
        exact .refuses phase
      · next lets =>
          cases taken
          have lets : state.worker.lets passed = true := by simpa using lets
          by_cases more : passed < 2
          · rw [if_pos more]
            exact .passes phase lets more
          · rw [if_neg more]
            exact .settles phase more
  | pushing =>
      simp only [phase, Option.some.injEq] at taken
      subst next
      exact .pushes phase
  | unlocking =>
      simp only [phase, Option.some.injEq] at taken
      subst next
      exact .unlocks phase
  | returned accepted => simp [phase] at taken

theorem TaskState.fault_cases {state next : TaskState} {call : Nat} {message : String} {now : Int}
    (taken : state.fault call message now = some next) : TaskStep state next := by
  unfold TaskState.fault at taken
  split at taken
  · cases taken
    exact .faults rfl id
  · cases taken
    exact .faults rfl id
  · cases taken
    exact .faults rfl (by simp)
  · contradiction

theorem TaskState.stop_cases {state next : TaskState} {call : Nat}
    (taken : state.stop call = some next) : TaskStep state next := by
  unfold TaskState.stop at taken
  split at taken
  · cases taken
    apply TaskStep.stopEnters
    split
    · exact .inl rfl
    · exact .inr rfl
  · cases taken
    exact .stopWithdraws
  · next phase =>
      cases taken
      exact .stopPosts phase
  · split at taken
    · next left =>
        cases taken
        exact .stopJoins left
    · contradiction
  · next phase =>
      cases taken
      exact .stopClears phase
  · contradiction

theorem TaskState.runThread_cases {state next : TaskState} {peeked : PeekedMessage}
    (taken : state.runThread peeked = some next) : TaskStep state next := by
  unfold TaskState.runThread at taken
  split at taken
  · next phase =>
      cases taken
      split
      · next running => exact .loops phase running
      · next stopped => exact .leaves phase (by simpa using stopped)
  · next phase =>
      split at taken
      · next free =>
          cases taken
          exact .swaps phase free
      · contradiction
  · next last phase =>
      cases taken
      cases last with
      | true => exact .finishesLast phase
      | false => exact .finishes phase
  · next phase =>
      cases taken
      exact .executes phase
  · next phase =>
      split at taken
      · cases taken
        apply TaskStep.idles (.inl phase)
        split <;> simp
      · cases taken
        have idle := TaskStep.idles (.inl phase) (.inl rfl)
        rwa [← phase] at idle
      · split at taken
        · next posted =>
            cases taken
            exact .seesQuit phase posted
        · contradiction
  · next phase =>
      cases taken
      exact .quits phase
  · next phase =>
      cases taken
      exact .idles (.inr phase) (.inr (.inr rfl))
  · contradiction

theorem taskStep_cases {state next : TaskState} {action : TaskAction}
    (taken : taskStep state action = some next) : TaskStep state next := by
  cases action with
  | post call => exact TaskState.post_cases taken
  | fault call message now => exact TaskState.fault_cases taken
  | stop call => exact TaskState.stop_cases taken
  | thread peeked => exact TaskState.runThread_cases taken

/-! ## The books of the queue -/

/-- Only the owner of the mutex is in the section that it guards. -/
def TaskState.Owned (state : TaskState) : Prop :=
  ∀ call, (state.posts call).holdsMutex = true → state.taskMutex = some call

/-- The calls that have pushed their tasks are those in `accepted`. -/
def TaskState.Listed (state : TaskState) : Prop :=
  ∀ call, call ∈ state.accepted ↔ (state.posts call).pushed = true

variable {state next : TaskState} {call : Nat} {phase : PostPhase}

theorem TaskState.Owned.setPost (owned : state.Owned)
    (after : phase.holdsMutex = true → state.taskMutex = some call) :
    (state.setPost call phase).Owned := by
  intro other holds
  by_cases same : other = call
  · subst other
    simp only [TaskState.setPost, Function.update_self] at holds
    exact after holds
  · simp only [TaskState.setPost, Function.update_of_ne same] at holds
    exact owned other holds

theorem TaskState.Owned.acquire (owned : state.Owned) (free : state.taskMutex = none) :
    TaskState.Owned { state.setPost call phase with taskMutex := some call } := by
  intro other holds
  by_cases same : other = call
  · rw [same]
  · simp only [TaskState.setPost, Function.update_of_ne same] at holds
    exact absurd (owned other holds) (by simp [free])

theorem TaskState.Owned.release (owned : state.Owned)
    (held : (state.posts call).holdsMutex = true) (after : phase.holdsMutex = false) :
    TaskState.Owned { state.setPost call phase with taskMutex := none } := by
  intro other holds
  by_cases same : other = call
  · subst other
    simp [TaskState.setPost, after] at holds
  · simp only [TaskState.setPost, Function.update_of_ne same] at holds
    exact absurd (Option.some.inj ((owned other holds).symm.trans (owned call held))) same

theorem TaskState.Listed.setPost (listed : state.Listed)
    (same : phase.pushed = (state.posts call).pushed) : (state.setPost call phase).Listed := by
  intro other
  refine (listed other).trans ?_
  by_cases equal : other = call
  · subst other
    simp [TaskState.setPost, same]
  · simp [TaskState.setPost, equal]

structure Booked (state : TaskState) : Prop where
  owned : state.Owned
  listed : state.Listed
  nodup : state.accepted.Nodup
  ledger : state.accepted = state.ran ++ state.thread.batch ++ state.taskQueue

theorem Booked.initial : Booked {} where
  owned := by simp [TaskState.Owned, PostPhase.holdsMutex]
  listed := by simp [TaskState.Listed, PostPhase.pushed]
  nodup := List.nodup_nil
  ledger := rfl

theorem Booked.step (booked : Booked state) (taken : TaskStep state next) : Booked next := by
  obtain ⟨owned, listed, nodup, ledger⟩ := booked
  cases taken with
  | outside mutex pushed mutexAfter pushedAfter =>
      exact ⟨owned.setPost (by simp [mutexAfter]), listed.setPost (pushedAfter.trans pushed.symm),
        nodup, ledger⟩
  | acquires phase free =>
      exact ⟨owned.acquire free, listed.setPost (by simp [phase, PostPhase.pushed]), nodup, ledger⟩
  | @passes call passed phase lets more =>
      have mutex := owned call (by simp [phase, PostPhase.holdsMutex])
      exact ⟨owned.setPost fun _ => mutex, listed.setPost (by simp [phase, PostPhase.pushed]),
        nodup, ledger⟩
  | @settles call passed phase enough =>
      have mutex := owned call (by simp [phase, PostPhase.holdsMutex])
      exact ⟨owned.setPost fun _ => mutex, listed.setPost (by simp [phase, PostPhase.pushed]),
        nodup, ledger⟩
  | refuses phase =>
      exact ⟨owned.release (by simp [phase, PostPhase.holdsMutex]) rfl,
        listed.setPost (by simp [phase, PostPhase.pushed]), nodup, ledger⟩
  | @pushes call phase =>
      have mutex := owned call (by simp [phase, PostPhase.holdsMutex])
      have fresh : call ∉ state.accepted := by simp [listed call, phase, PostPhase.pushed]
      refine ⟨owned.setPost fun _ => mutex, fun other => ?_, ?_, ?_⟩
      · by_cases same : other = call
        · subst other
          simp [TaskState.setPost, PostPhase.pushed]
        · simp [TaskState.setPost, same, listed other]
      · have others : ∀ other ∈ state.accepted, other ≠ call :=
          fun other member same => fresh (same ▸ member)
        simpa [List.nodup_append, nodup] using others
      · simp [TaskState.setPost, ledger]
  | unlocks phase =>
      exact ⟨owned.release (by simp [phase, PostPhase.holdsMutex]) rfl,
        listed.setPost (by simp [phase, PostPhase.pushed]), nodup, ledger⟩
  | faults | stopEnters | stopWithdraws | stopPosts | stopJoins | stopClears =>
      exact ⟨owned, listed, nodup, ledger⟩
  | loops phase | leaves phase | finishes phase | finishesLast phase | seesQuit phase =>
      exact ⟨owned, listed, nodup, by simpa [phase, ThreadPhase.batch] using ledger⟩
  | quits phase =>
      refine ⟨owned, listed, nodup, ?_⟩
      simpa [phase, ThreadPhase.batch, TaskState.setWorker] using ledger
  | swaps phase free =>
      exact ⟨owned, listed, nodup, by simpa [phase, ThreadPhase.batch] using ledger⟩
  | executes phase =>
      exact ⟨owned, listed, nodup, by simpa [phase, ThreadPhase.batch] using ledger⟩
  | idles before after =>
      refine ⟨owned, listed, nodup, ?_⟩
      rcases before with before | before <;> rcases after with rfl | rfl | rfl <;>
        simpa [before, ThreadPhase.batch] using ledger

/-! ## The last swap -/

/-- Past the test of `acceptingTasks` under the mutex. -/
def PostPhase.mayPush : PostPhase → Bool
  | .retesting passed => 2 ≤ passed
  | .pushing => true
  | _ => false

theorem PostPhase.holdsMutex_of_mayPush (may : phase.mayPush = true) :
    phase.holdsMutex = true := by
  cases phase <;> simp_all [PostPhase.mayPush, PostPhase.holdsMutex]

/-- No task can be pushed any more. -/
structure Closed (state : TaskState) : Prop where
  withdrawn : state.worker.acceptingTasks = false
  drained : state.taskQueue = []
  posts : ∀ call, (state.posts call).mayPush = false

/-- Acceptance that was withdrawn stays so. -/
theorem withdrawn_step (taken : TaskStep state next)
    (withdrawn : state.worker.acceptingTasks = false) : next.worker.acceptingTasks = false := by
  cases taken with
  | faults running accepting =>
      exact Bool.eq_false_iff.mpr fun accepts =>
        absurd (accepting accepts) (by simp [withdrawn])
  | stopWithdraws => rfl
  | _ => exact withdrawn

theorem setPost_mayPush (posts : ∀ call, (state.posts call).mayPush = false)
    (after : phase.mayPush = false) :
    ∀ other, ((state.setPost call phase).posts other).mayPush = false := by
  intro other
  by_cases same : other = call
  · subst other
    simpa [TaskState.setPost] using after
  · simpa [TaskState.setPost, same] using posts other

theorem Closed.step (closed : Closed state) (taken : TaskStep state next) : Closed next := by
  have withdrawn := withdrawn_step taken closed.withdrawn
  have posts := closed.posts
  cases taken with
  | @outside call phase mutex pushed mutexAfter pushedAfter =>
      have after : phase.mayPush = false := by
        rw [Bool.eq_false_iff]
        intro may
        exact absurd (PostPhase.holdsMutex_of_mayPush may) (by simp [mutexAfter])
      exact ⟨withdrawn, closed.drained, setPost_mayPush posts after⟩
  | acquires phase free => exact ⟨withdrawn, closed.drained, setPost_mayPush posts rfl⟩
  | @passes call passed phase lets more =>
      -- Only the test of `running` is passed.
      have first : passed ≠ 1 := by
        rintro rfl
        exact absurd lets (by simp [ComThreadWorker.lets, closed.withdrawn])
      have none : passed = 0 := by omega
      subst none
      exact ⟨withdrawn, closed.drained, setPost_mayPush posts rfl⟩
  | @settles call passed phase enough =>
      have before := posts call
      simp [phase, PostPhase.mayPush] at before
      omega
  | refuses phase => exact ⟨withdrawn, closed.drained, setPost_mayPush posts rfl⟩
  | @pushes call phase =>
      have before := posts call
      simp [phase, PostPhase.mayPush] at before
  | unlocks phase => exact ⟨withdrawn, closed.drained, setPost_mayPush posts rfl⟩
  | swaps phase free => exact ⟨withdrawn, rfl, posts⟩
  | _ => exact ⟨withdrawn, closed.drained, posts⟩

/-- How far a shutdown has come. -/
structure Draining (state : TaskState) : Prop where
  quitPosted : state.quitPosted = true → state.worker.acceptingTasks = false
  posting : ∀ call, state.stops call = .posting → state.worker.acceptingTasks = false
  joined : ∀ call, state.stops call = .clearing → state.thread = .left
  swapping : state.thread = .swapping true → state.worker.acceptingTasks = false
  final : state.thread.final = true → Closed state
  stopped : state.worker.running = false →
    Closed state ∧ (state.thread = .looping ∨ state.thread = .left)

theorem Draining.initial : Draining {} where
  quitPosted := by simp
  posting := by simp
  joined := by simp
  swapping := by simp
  final := by simp [ThreadPhase.final]
  stopped := by simp

/-- After the swap that follows `WM_QUIT`. -/
theorem closed_of_swap {phase : ThreadPhase} (owned : state.Owned)
    (free : state.taskMutex = none) (withdrawn : state.worker.acceptingTasks = false) :
    Closed { state with taskQueue := [], thread := phase } where
  withdrawn := withdrawn
  drained := rfl
  posts call := by
    rw [Bool.eq_false_iff]
    intro may
    exact absurd (owned call (PostPhase.holdsMutex_of_mayPush may)) (by simp [free])

/-- A step of a caller: the thread stays where it is. -/
theorem Draining.carry (draining : Draining state) (taken : TaskStep state next)
    (thread : next.thread = state.thread)
    (quitPosted : next.quitPosted = true →
      state.quitPosted = true ∨ state.worker.acceptingTasks = false)
    (posting : ∀ call, next.stops call = .posting →
      state.stops call = .posting ∨ next.worker.acceptingTasks = false)
    (joined : ∀ call, next.stops call = .clearing →
      state.stops call = .clearing ∨ state.thread = .left)
    (running : next.worker.running = false →
      state.worker.running = false ∨ state.thread = .left) : Draining next where
  quitPosted posted := withdrawn_step taken
    ((quitPosted posted).elim draining.quitPosted id)
  posting call phase := (posting call phase).elim
    (fun before => withdrawn_step taken (draining.posting call before)) id
  joined call phase := thread.trans ((joined call phase).elim (draining.joined call) id)
  swapping phase := withdrawn_step taken (draining.swapping (thread ▸ phase))
  final phase := (draining.final (thread ▸ phase)).step taken
  stopped stopped := by
    rw [thread]
    rcases running stopped with before | left
    · obtain ⟨closed, phase⟩ := draining.stopped before
      exact ⟨closed.step taken, phase⟩
    · exact ⟨(draining.final (by simp [left, ThreadPhase.final])).step taken, .inr left⟩

/-- A step of the thread: the callers stay where they are. -/
theorem Draining.move (draining : Draining state) (taken : TaskStep state next)
    (quitPosted : next.quitPosted = state.quitPosted) (stops : next.stops = state.stops)
    (stays : state.thread ≠ .left)
    (swapping : next.thread = .swapping true → state.worker.acceptingTasks = false)
    (final : next.thread.final = true → Closed next)
    (stopped : next.worker.running = false →
      Closed next ∧ (next.thread = .looping ∨ next.thread = .left)) : Draining next where
  quitPosted posted := withdrawn_step taken (draining.quitPosted (quitPosted ▸ posted))
  posting call phase := withdrawn_step taken (draining.posting call (stops ▸ phase))
  joined call phase := absurd (draining.joined call (stops ▸ phase)) stays
  swapping phase := withdrawn_step taken (swapping phase)
  final := final
  stopped := stopped

theorem update_stops {phase : StopPhase} {other : Nat} {target : StopPhase}
    (after : (state.setStop call phase).stops other = target) :
    state.stops other = target ∨ phase = target := by
  by_cases same : other = call
  · subst other
    simp only [TaskState.setStop, Function.update_self] at after
    exact .inr after
  · simp only [TaskState.setStop, Function.update_of_ne same] at after
    exact .inl after

/-- While the thread is neither looping nor gone, `m_running` is set. -/
theorem Draining.running (draining : Draining state) (looping : state.thread ≠ .looping)
    (left : state.thread ≠ .left) : state.worker.running ≠ false := by
  intro stopped
  rcases (draining.stopped stopped).2 with phase | phase
  · exact looping phase
  · exact left phase

theorem Draining.step (draining : Draining state) (owned : state.Owned)
    (taken : TaskStep state next) : Draining next := by
  have step := taken
  cases taken with
  | outside | acquires | passes | settles | refuses | pushes | unlocks =>
      exact draining.carry step rfl .inl (fun _ => .inl) (fun _ => .inl) .inl
  | faults running accepting =>
      exact draining.carry step rfl .inl (fun _ => .inl) (fun _ => .inl)
        (fun stopped => .inl (running ▸ stopped))
  | @stopEnters call phase after =>
      refine draining.carry step rfl .inl (fun other after' => .inl ?_)
        (fun other after' => .inl ?_) .inl
      · rcases update_stops after' with before | rfl
        · exact before
        · simp at after
      · rcases update_stops after' with before | rfl
        · exact before
        · simp at after
  | @stopWithdraws call =>
      refine draining.carry step rfl .inl (fun other _ => .inr rfl)
        (fun other after => .inl ?_) .inl
      exact (update_stops after).resolve_right (by simp)
  | @stopPosts call phase =>
      refine draining.carry step rfl (fun _ => .inr (draining.posting call phase))
        (fun other after => .inl ?_) (fun other after => .inl ?_) .inl
      · exact (update_stops after).resolve_right (by simp)
      · exact (update_stops after).resolve_right (by simp)
  | @stopJoins call left =>
      refine draining.carry step rfl .inl (fun other after => .inl ?_) (fun _ _ => .inr left) .inl
      exact (update_stops after).resolve_right (by simp)
  | @stopClears call phase =>
      refine draining.carry step rfl .inl (fun other after => .inl ?_)
        (fun other after => .inl ?_) (fun _ => .inr (draining.joined call phase))
      · exact (update_stops after).resolve_right (by simp)
      · exact (update_stops after).resolve_right (by simp)
  | loops phase running =>
      exact draining.move step rfl rfl (by simp [phase]) (by simp) (by simp [ThreadPhase.final])
        (by simp [running])
  | leaves phase stopped =>
      have closed := (draining.stopped stopped).1.step step
      exact draining.move step rfl rfl (by simp [phase]) (by simp) (fun _ => closed)
        (fun _ => ⟨closed, .inr rfl⟩)
  | @swaps last phase free =>
      refine draining.move step rfl rfl (by simp [phase]) (by simp) (fun final => ?_)
        (fun stopped => absurd stopped (draining.running (by simp [phase]) (by simp [phase])))
      have last : last = true := final
      exact closed_of_swap owned free (draining.swapping (last ▸ phase))
  | finishes phase =>
      exact draining.move step rfl rfl (by simp [phase]) (by simp) (by simp [ThreadPhase.final])
        (fun stopped => absurd stopped (draining.running (by simp [phase]) (by simp [phase])))
  | finishesLast phase =>
      have closed := (draining.final (by simp [phase, ThreadPhase.final])).step step
      exact draining.move step rfl rfl (by simp [phase]) (by simp) (fun _ => closed)
        (fun stopped => absurd stopped (draining.running (by simp [phase]) (by simp [phase])))
  | @executes task tasks last phase =>
      refine draining.move step rfl rfl (by simp [phase]) (by simp) (fun final => ?_)
        (fun stopped => absurd stopped (draining.running (by simp [phase]) (by simp [phase])))
      exact (draining.final (by rw [phase]; exact final)).step step
  | @idles phase before after =>
      have looping : state.thread ≠ .looping := by
        rcases before with before | before <;> simp [before]
      have left : state.thread ≠ .left := by
        rcases before with before | before <;> simp [before]
      refine draining.move step rfl rfl left (fun swapping => ?_) (fun final => ?_)
        (fun stopped => absurd stopped (draining.running looping left))
      · rcases after with rfl | rfl | rfl <;> cases swapping
      · rcases after with rfl | rfl | rfl <;> cases final
  | seesQuit phase posted =>
      exact draining.move step rfl rfl (by simp [phase]) (fun _ => draining.quitPosted posted)
        (by simp [ThreadPhase.final])
        (fun stopped => absurd stopped (draining.running (by simp [phase]) (by simp [phase])))
  | quits phase =>
      have closed := (draining.final (by simp [phase, ThreadPhase.final])).step step
      exact draining.move step rfl rfl (by simp [phase]) (by simp) (fun _ => closed)
        (fun _ => ⟨closed, .inl rfl⟩)

/-! ## Whole runs -/

theorem task_run {schedule : List TaskAction} (ran : run taskStep {} schedule = some state) :
    Booked state ∧ Draining state := by
  refine run_preserves (fun state => Booked state ∧ Draining state) ?_
    ⟨.initial, .initial⟩ ran
  intro state action next kept taken
  have step := taskStep_cases taken
  exact ⟨kept.1.step step, kept.2.step kept.1.owned step⟩

/-- In every reachable state the tasks executed are a first part of the accepted ones, each
accepted once.  When the thread has left its loop they are all of them, so that every call
that returned true has had its task executed once.  A call that returned false never has. -/
theorem accepted_tasks_run {schedule : List TaskAction} {state : TaskState}
    (ran : run taskStep {} schedule = some state) :
    state.ran <+: state.accepted ∧ state.accepted.Nodup ∧
      (∀ call, state.posts call = .returned true → call ∈ state.accepted) ∧
      (∀ call, state.posts call = .returned false → call ∉ state.ran) ∧
      (state.thread = .left → state.ran = state.accepted ∧
        ∀ call, state.posts call = .returned true → state.ran.count call = 1) := by
  obtain ⟨booked, draining⟩ := task_run ran
  have accepted : ∀ call, state.posts call = .returned true → call ∈ state.accepted :=
    fun call phase => (booked.listed call).mpr (by simp [phase, PostPhase.pushed])
  refine ⟨?_, booked.nodup, accepted, fun call phase member => ?_, fun left => ?_⟩
  · rw [booked.ledger, List.append_assoc]
    exact List.prefix_append _ _
  · have pushed := (booked.listed call).mp (by
      rw [booked.ledger]
      simp [member])
    simp [phase, PostPhase.pushed] at pushed
  · have closed := draining.final (by simp [left, ThreadPhase.final])
    have ledger := booked.ledger
    simp only [closed.drained, left, ThreadPhase.batch, List.append_nil] at ledger
    refine ⟨ledger.symm, fun call phase => ?_⟩
    rw [← ledger]
    exact List.count_eq_one_of_mem booked.nodup (accepted call phase)

/-- The second of two calls has passed its first test when `stop` withdraws acceptance. -/
def lateCall : List TaskAction :=
  List.replicate 10 (.post 0) ++ List.replicate 4 (.post 1) ++ List.replicate 3 (.stop 0) ++
    List.replicate 3 (.post 1) ++ List.replicate 4 (.thread .nothing) ++ [.thread .quit] ++
    List.replicate 4 (.thread .nothing)

theorem accepted_tasks_run_late_call :
    ∃ state, run taskStep {} lateCall = some state ∧ state.thread = .left ∧
      state.posts 0 = .returned true ∧ state.posts 1 = .returned false ∧ state.ran = [0] ∧
      state.ran.count 0 = 1 := by
  obtain ⟨state, ran, left, first, second, tasks⟩ : ∃ state,
      run taskStep {} lateCall = some state ∧ state.thread = .left ∧
        state.posts 0 = .returned true ∧ state.posts 1 = .returned false ∧ state.ran = [0] :=
    ⟨_, rfl, rfl, rfl, rfl, rfl⟩
  have all := (accepted_tasks_run ran).2.2.2.2 left
  exact ⟨state, ran, left, first, second, tasks, all.2 0 first⟩

end JVLinkServer.Core
