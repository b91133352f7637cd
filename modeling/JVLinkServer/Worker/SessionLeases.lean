import JVLinkServer.Worker.SessionProtocol

namespace JVLinkServer.Worker

open Transition

/-! # The snapshots of the leases

A `SessionLease` keeps the snapshot that its constructor published.  The steps are
those of the session protocol with the leases written beside the state, so that the
active session can be compared with what its owner put there.
-/

/-- `leases` has the `snapshot_` of every lease that is alive. -/
structure LeasedState where
  session : SessionState
  leases : Nat → Option SessionSnapshot

namespace LeasedState

def initial : LeasedState where
  session := .initial
  leases := fun _ => none

def leasesAfter (state : LeasedState) : SessionAction → Nat → Option SessionSnapshot
  | .publish request now watchActive =>
      Function.update state.leases request
        (some (makeSessionSnapshot (state.session.requests request).incoming now watchActive))
  | .clear request => Function.update state.leases request none
  | _ => state.leases

end LeasedState

def leasedStep (state : LeasedState) (action : SessionAction) : Option LeasedState :=
  (sessionStep state.session action).map fun session =>
    { session, leases := state.leasesAfter action }

theorem leasedStep_eq_some {state next : LeasedState} {action : SessionAction} :
    leasedStep state action = some next ↔
      sessionStep state.session action = some next.session ∧
        next.leases = state.leasesAfter action := by
  obtain ⟨session, leases⟩ := next
  simp only [leasedStep, Option.map_eq_some_iff, LeasedState.mk.injEq]
  constructor
  · intro ⟨_, taken, same, written⟩
    exact ⟨same ▸ taken, written.symm⟩
  · intro ⟨taken, written⟩
    exact ⟨session, taken, rfl, written.symm⟩

/-! ## The active session is the owner's -/

/-- The one lease that is alive wrote what is published, and without one nothing is. -/
structure LeasedState.Consistent (state : LeasedState) : Prop where
  exclusive : state.session.Exclusive
  alive : ∀ request, (state.session.requests request).phase.leased →
    state.leases request = some state.session.activeSession
  idle : state.session.publisher = none → state.session.activeSession = {}

namespace LeasedState

theorem Consistent.initial : LeasedState.initial.Consistent where
  exclusive := .initial
  alive := by simp [LeasedState.initial, SessionState.initial, RequestPhase.leased]
  idle := fun _ => rfl

/-- A step that touches neither the active session nor a lease keeps both. -/
theorem Consistent.frame {state : LeasedState} {session : SessionState}
    (consistent : state.Consistent) (exclusive : session.Exclusive)
    (active : session.activeSession = state.session.activeSession)
    (publisher : session.publisher = state.session.publisher)
    (leased : ∀ request, (session.requests request).phase.leased →
      (state.session.requests request).phase.leased) :
    LeasedState.Consistent { session, leases := state.leases } where
  exclusive := exclusive
  alive := fun request alive => active ▸ consistent.alive request (leased request alive)
  idle := fun none => active ▸ consistent.idle (publisher ▸ none)

/-- The destructor of the one live lease finds its own request id in the active session,
whatever ids the other requests carry. -/
theorem Consistent.clear_active {state : LeasedState} {request : Nat}
    (consistent : state.Consistent)
    (leased : (state.session.requests request).phase.leased) :
    (state.session.clear request).activeSession = {} := by
  have own := (consistent.exclusive.lease request leased).2
  simp [SessionState.clear, ← own]

theorem Consistent.step {state next : LeasedState} {action : SessionAction}
    (consistent : state.Consistent) (taken : leasedStep state action = some next) :
    next.Consistent := by
  obtain ⟨taken, written⟩ := leasedStep_eq_some.mp taken
  obtain ⟨session, leases⟩ := next
  have exclusive := consistent.exclusive.step taken
  dsimp only at taken written exclusive
  cases sessionStep_cases taken with
  | resetArrives phase | resetLook phase | resetIncrement phase | resetPoll phase
  | resetAnswer phase =>
      subst written
      exact consistent.frame exclusive rfl rfl fun _ leased => leased
  | requestArrives phase | lockTaken phase _ | lockBusy phase _ | busyHeaders phase
  | busyBody phase | unlock phase =>
      subst written
      refine consistent.frame exclusive rfl rfl fun other leased => ?_
      simp only [SessionState.setPhase, SessionState.setRequest, SessionState.unlock] at leased
      grind [RequestPhase.leased]
  | sample phase streams =>
      subst written
      refine consistent.frame exclusive rfl rfl fun other leased => ?_
      simp only [SessionState.sample, SessionState.setPhase, SessionState.setRequest] at leased
      grind [RequestPhase.leased]
  | @publish request now watchActive phase =>
      subst written
      refine ⟨exclusive, fun other leased => ?_, fun none => by simp [SessionState.publish] at none⟩
      have owner := (exclusive.lease other leased).1
      obtain rfl : request = other := by simpa [SessionState.publish] using owner
      simp [LeasedState.leasesAfter, SessionState.publish]
  | @clear request leased =>
      have empty := consistent.clear_active leased
      refine ⟨exclusive, fun other alive => ?_, fun _ => empty⟩
      -- Another live lease would hold the lock as well.
      have owner := (exclusive.lease other alive).1
      have own := (consistent.exclusive.lease request leased).2
      simp [SessionState.clear, own] at owner

theorem Consistent.run {actions : List SessionAction} {state : LeasedState}
    (ran : Transition.run leasedStep LeasedState.initial actions = some state) :
    state.Consistent :=
  run_preserves Consistent (fun _ _ _ consistent taken => consistent.step taken) .initial ran

end LeasedState

/-- Every schedule of the session protocol runs with its leases written beside it. -/
theorem leasedStep_runs {actions : List SessionAction} {start state : SessionState}
    (leases : Nat → Option SessionSnapshot)
    (ran : run sessionStep start actions = some state) :
    ∃ leases', run leasedStep ⟨start, leases⟩ actions = some ⟨state, leases'⟩ := by
  induction actions generalizing start leases with
  | nil =>
      cases ran
      exact ⟨leases, rfl⟩
  | cons action rest ih =>
      obtain ⟨next, taken, ran⟩ := run_cons_eq_some.mp ran
      obtain ⟨leases', ran⟩ := ih (LeasedState.leasesAfter ⟨start, leases⟩ action) ran
      exact ⟨leases', run_cons_eq_some.mpr ⟨_, leasedStep_eq_some.mpr ⟨taken, rfl⟩, ran⟩⟩

/-- Under every interleaving at most one request is between taking and releasing the
operation lock, a live lease finds the snapshot it published, and with no lease alive the
session is not busy. -/
theorem single_session {actions : List SessionAction} {state : LeasedState}
    (ran : run leasedStep LeasedState.initial actions = some state) :
    (∀ first second, (state.session.requests first).phase.holdsLock →
      (state.session.requests second).phase.holdsLock → first = second) ∧
    (∀ request, (state.session.requests request).phase.leased →
      state.leases request = some state.session.activeSession) ∧
    ((∀ request, (state.session.requests request).phase.leased = false) →
      state.session.activeSession.busy = false) := by
  have consistent := LeasedState.Consistent.run ran
  refine ⟨fun first second holds holds' => ?_, consistent.alive, fun unleased => ?_⟩
  · have first := consistent.exclusive.lock first holds
    have second := consistent.exclusive.lock second holds'
    exact Option.some.inj (first.symm.trans second)
  · have idle : state.session.publisher = none := by
      cases publisher : state.session.publisher with
      | none => rfl
      | some request =>
          have leased := consistent.exclusive.publisher request publisher
          simp [unleased request] at leased
    rw [consistent.idle idle]

/-- Two clients choose one request id: the second is turned away and the first one's
session stays. -/
theorem single_session_same_id :
    let incoming : IncomingRequest :=
      { operation := .queryStored, path := "/query/stored", dataspec := "RACE",
        requestId := utf8 "same", remoteAddr := "127.0.0.1" }
    let other : IncomingRequest :=
      { operation := .eventStart, path := "/event/start", requestId := utf8 "same",
        remoteAddr := "127.0.0.1" }
    let actions : List SessionAction :=
      [.requestArrives 0 incoming, .tryLock 0, .requestArrives 1 other, .publish 0 5 false,
        .tryLock 1, .sample 0]
    ∃ state, run leasedStep LeasedState.initial actions = some state ∧
      (state.session.requests 0).phase.leased = true ∧
      state.leases 0 = some state.session.activeSession ∧
      state.session.activeSession.dataspec = "RACE" := by
  intro incoming other actions
  have ran : run leasedStep LeasedState.initial actions = some _ := rfl
  exact ⟨_, ran, rfl, (single_session ran).2.1 0 rfl, rfl⟩

end JVLinkServer.Worker
