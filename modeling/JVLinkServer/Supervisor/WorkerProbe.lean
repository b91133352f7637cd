import JVLinkServer.Supervisor.WorkerProcessManager
import JVLinkServer.Worker.HealthReports

namespace JVLinkServer.Supervisor

open JVLinkServer.Core Effects Http Worker

/-! # The worker as its supervisor sees it

A worker whose wrapper is operational must not be taken for a broken one because of
what a client sent.  It is, through the request id of the active session.
-/

/-- What the client of `probeWorkerLocked` receives. -/
def HealthReply.ofResponse (response : Response) : HealthReply where
  status := response.status
  body := response.content

/-- The manager's process runs and its port is answered by this worker. -/
structure Probes {κ : Type} (env : ManagerEnvironment κ) (world : ManagerWorld κ)
    (server : WorkerServer) : Prop where
  hasProcess : world.manager.hasProcess = true
  workerPort : world.manager.workerPort ≠ 0
  running : (env.hasExited world.manager.processInfo.hProcess world.env).1 = false
  answers : ∀ asked, ∃ clock connection, ∃ request : Request, request.ranges = [] ∧
    (env.getHealth world.manager.workerPort asked).1 =
      some (.ofResponse (server.serve connection request (handleHealth clock request)))

/-- The request asks for no part of a body. -/
structure LooksHealthy (server : WorkerServer) : Prop where
  health : ∀ clock connection, ∀ request : Request, request.ranges = [] →
    let response := server.serve connection request (handleHealth clock request)
    response.status = 200 ∧
      ((Json.parse response.content).bind (Json.member? "status")) = some (.text "healthy")
  session : ∀ clock connection, ∀ request : Request, request.ranges = [] →
    (server.serve connection request (handleSession clock request)).status = 200
  busy : ∀ clock connection, ∀ request : Request, request.ranges = [] → ∀ operation served,
    let response := server.serve connection request
      (handleOperation clock request operation false served)
    response.status = 503 ∧ ∃ document, Json.parse response.content = some document ∧
      IsBusyAnswer document
  probe : ∀ clock connection, ∀ request : Request, request.ranges = [] →
    (readProbe (some (.ofResponse
      (server.serve connection request (handleHealth clock request))))).healthy = true
  notRestarted : ∀ {κ : Type} (env : ManagerEnvironment κ) (world : ManagerWorld κ),
    Probes env world server → ∃ after, ensureWorkerReady env world = .ok true after ∧
      after.stopped = world.stopped ∧ after.started = world.started

theorem readProbe_healthy {response : Response} {document : Json} (status : response.status = 200)
    (parsed : Json.parse response.content = some document)
    (shown : document.member? "status" = some (.text "healthy")) :
    (readProbe (some (.ofResponse response))).healthy = true := by
  have object := Json.isObject_of_member? shown
  have payload : (Json.parse response.content).filter Json.isObject = some document := by
    rw [parsed]
    simp [Option.filter, object]
  simp [readProbe, HealthReply.ofResponse, status, payload, shown, Json.string?, Json.text]

/-- A worker that a probe finds healthy is left alone. -/
theorem ensureWorkerReady_healthy {κ : Type} {env : ManagerEnvironment κ}
    {world : ManagerWorld κ} (hasProcess : world.manager.hasProcess = true)
    (workerPort : world.manager.workerPort ≠ 0)
    (running : (env.hasExited world.manager.processInfo.hProcess world.env).1 = false)
    (healthy : ∀ asked, (readProbe (env.getHealth world.manager.workerPort asked).1).healthy = true) :
    ∃ after, ensureWorkerReady env world = .ok true after ∧ after.stopped = world.stopped ∧
      after.started = world.started := by
  have live : hasLiveProcessLocked env world = .ok true
      { world with env := (env.hasExited world.manager.processInfo.hProcess world.env).2 } := by
    simp [hasLiveProcessLocked, hasExitedLocked, Effects.read, ask, Bind.bind, EStateM.bind,
      Pure.pure, EStateM.pure, hasProcess, running]
  simp only [ensureWorkerReady, ensureWorkerReadyLocked, Bind.bind, EStateM.bind, live]
  simp [probeWorkerLocked, Effects.read, ask, change, Effects.update, Bind.bind, EStateM.bind,
    Pure.pure, EStateM.pure, hasProcess, workerPort, healthy, ManagerWorld.setManager]

section Reports

variable {server : WorkerServer} {health : JVLinkHealthSnapshot}

theorem serve_health (wrapper : server.wrapper = some health)
    (operational : health.operational = true)
    (valid : validUtf8 server.activeSession.requestId = true) (clock : Clock)
    (connection : Connection) {request : Request} (plain : request.ranges = []) :
    let response := server.serve connection request (handleHealth clock request)
    response.status = 200 ∧ ∃ document, Json.parse response.content = some document ∧
      document.member? "status" = some (.text "healthy") :=
  serve_answers connection plain (handleHealth_shows server clock request wrapper operational valid)

theorem looksHealthy_of_text (wrapper : server.wrapper = some health)
    (operational : health.operational = true)
    (valid : validUtf8 server.activeSession.requestId = true) : LooksHealthy server where
  health clock connection request plain := by
    obtain ⟨status, document, parsed, shown⟩ :=
      serve_health wrapper operational valid clock connection plain
    refine ⟨status, ?_⟩
    rw [parsed]
    exact shown
  session clock connection request plain :=
    (serve_answers connection plain (handleSession_shows server clock request valid)).1
  busy clock connection request plain operation served :=
    serve_answers connection plain
      (handleOperation_busy server clock request wrapper operational valid operation served)
  probe clock connection request plain := by
    obtain ⟨status, document, parsed, shown⟩ :=
      serve_health wrapper operational valid clock connection plain
    exact readProbe_healthy status parsed shown
  notRestarted env world probes := by
    refine ensureWorkerReady_healthy probes.hasProcess probes.workerPort probes.running
      fun asked => ?_
    obtain ⟨clock, connection, request, plain, answered⟩ := probes.answers asked
    obtain ⟨status, document, parsed, shown⟩ :=
      serve_health wrapper operational valid clock connection plain
    rw [answered]
    exact readProbe_healthy status parsed shown

/-- No answer about a session whose request id is not text is the right one. -/
theorem reports_fail (wrapper : server.wrapper = some health)
    (operational : health.operational = true)
    (invalid : ¬ validUtf8 server.activeSession.requestId = true) (clock : Clock)
    (connection : Connection) {request : Request} (plain : request.ranges = [])
    (operation : Operation) (served : Handler Unit) :
    (server.serve connection request (handleHealth clock request)).status = 503 ∧
      (server.serve connection request (handleSession clock request)).status = 500 ∧
      (server.serve connection request
        (handleOperation clock request operation false served)).status = 500 :=
  ⟨(serve_answers connection plain (handleHealth_fails server clock request invalid)).1,
    (serve_answers connection plain (handleSession_fails server clock request invalid)).1,
    (serve_answers connection plain (handleOperation_fails server clock request wrapper
      operational invalid operation served)).1⟩

theorem not_looksHealthy (wrapper : server.wrapper = some health)
    (operational : health.operational = true)
    (invalid : ¬ validUtf8 server.activeSession.requestId = true) : ¬ LooksHealthy server := by
  intro looks
  let request : Request := { method := "GET", path := "/session" }
  have failed := reports_fail wrapper operational invalid {} {} (rfl : request.ranges = [])
    .queryStored (pure ())
  have answered := looks.session {} {} request rfl
  rw [failed.2.1] at answered
  contradiction

/-- An operational worker looks healthy exactly while the request id of its active
session is text. -/
theorem looksHealthy_iff (wrapper : server.wrapper = some health)
    (operational : health.operational = true) :
    LooksHealthy server ↔ validUtf8 server.activeSession.requestId = true := by
  constructor
  · intro looks
    by_contra invalid
    exact not_looksHealthy wrapper operational invalid looks
  · exact looksHealthy_of_text wrapper operational

end Reports

/-- A sound wrapper, and the session of a stored query with this header. -/
def servingFor (header : Header) : WorkerServer where
  port := 8765
  wrapper := some { initialized := true, operational := true, status := "healthy" }
  activeSession := makeSessionSnapshot
    { operation := .queryStored
      path := "/query/stored"
      dataspec := "RACE"
      requestId := Headers.value [header] "X-Request-Id"
      remoteAddr := "192.168.0.2" }
    1700000000 false

theorem looksHealthy_iff_plain_id :
    parseHeader (utf8 "X-Request-Id: client-7") =
        some (utf8 "X-Request-Id", utf8 "client-7") ∧
      (LooksHealthy (servingFor (utf8 "X-Request-Id", utf8 "client-7")) ↔
        validUtf8 (utf8 "client-7") = true) :=
  ⟨by decide, looksHealthy_iff rfl rfl⟩

/-- A header that any client can send. -/
theorem escaped_id_looks_unhealthy :
    parseHeader (utf8 "X-Request-Id: %FF") = some (utf8 "X-Request-Id", [255]) ∧
      ¬ LooksHealthy (servingFor (utf8 "X-Request-Id", [255])) := by
  refine ⟨by decide, not_looksHealthy rfl rfl ?_⟩
  decide

end JVLinkServer.Supervisor
