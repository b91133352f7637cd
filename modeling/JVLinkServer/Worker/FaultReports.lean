import JVLinkServer.Core.Corruption
import JVLinkServer.Core.WrapperHealth
import JVLinkServer.Worker.HealthReports

namespace JVLinkServer.Worker

open JVLinkServer.Core Effects Http Transition

/-! # A dead COM thread is reported

When the flags of the wrapper and of its COM thread agree, `/health` and the check
before every operation report a COM thread that has failed.
-/

section Reports

variable (server : WorkerServer) (clock : Clock) (request : Request)

theorem handleHealth_unhealthy (notOperational : server.health.operational = false) :
    Ensures (Serving server) (handleHealth clock request)
      (fun _ exchange => Answers 503
        (fun document => document.member? "status" = some (.text "unhealthy")) exchange.response)
      (fun _ _ => False) := by
  by_cases valid : validUtf8 server.activeSession.requestId = true
  · refine Ensures.handle ?_ fun _ => Ensures.vacuous
    refine Ensures.bind (ensureRequestId_serving server clock request) fun _ => ?_
    refine Ensures.bind Ensures.read fun exchange => ?_
    rintro _ ⟨rfl, serving⟩
    have unsound : exchange.server.health.operational = false := by
      rw [WorkerServer.health, serving.wrapper]
      exact notOperational
    have text : (exchange.server.healthJson clock).isText = true := by
      rw [healthJson_isText, serving.activeSession]
      exact valid
    have shown : (exchange.server.healthJson clock).member? "status" =
        some (.text "unhealthy") := by
      have member : (exchange.server.healthJson clock).member? "status" = some (.text
          (if exchange.server.health.operational then "healthy" else "unhealthy")) := rfl
      rw [member, unsound]
      rfl
    simp only [unsound]
    have marks : Ensures (Serving server)
        (respond fun response => { response with status := 503 })
        (fun _ exchange => exchange.response.status = 503) (fun _ _ => False) :=
      Ensures.update fun _ _ => rfl
    exact Ensures.bind marks (fun _ => setJson_answers (fun _ status => status)
      (healthJson_canonical _ _) text shown) exchange serving
  · exact handleHealth_fails server clock request valid

theorem setJson_status {status : Int} (value : Json) :
    Keeps (fun exchange => exchange.response.status = status) (setJson value) := by
  intro exchange same
  unfold setJson
  cases value.dump with
  | ok body => exact same
  | error what => exact same

theorem setUnavailableResponse_status (operation : Operation) (message : String)
    (requestId : Bytes) :
    Ensures (fun _ => True) (setUnavailableResponse clock operation message requestId)
      (fun _ exchange => exchange.response.status = 503)
      (fun _ exchange => exchange.response.status = 503) := by
  refine Ensures.seq (fun _ _ => True) (Ensures.update fun _ _ => trivial) fun _ => ?_
  refine Ensures.bind Ensures.peek fun exchange => ?_
  refine Ensures.seq (fun _ exchange => exchange.response.status = 503)
    (Ensures.update fun _ _ => rfl) fun _ => ?_
  refine Ensures.bind (setHeaderUnless_keeps _ _ _ fun _ same => same) fun _ => ?_
  refine Keeps.bind (Keeps.update fun _ same => same) fun _ => ?_
  refine Keeps.bind (Keeps.update fun _ same => same) fun _ => ?_
  exact setJson_status _

/-- No operation begins.  The answer may be an exception where the session cannot be
shown. -/
theorem ensureWrapperOperational_refuses {snapshot : JVLinkHealthSnapshot}
    (notOperational : snapshot.operational = false) (operation : Operation) (requestId : Bytes) :
    Ensures (fun exchange => exchange.server.wrapper = some snapshot)
      (ensureWrapperOperational clock operation requestId)
      (fun sound exchange => sound = false ∧ exchange.response.status = 503)
      (fun _ exchange => exchange.response.status = 503) := by
  refine Ensures.bind Ensures.read fun exchange => ?_
  rintro _ ⟨rfl, wrapper⟩
  simp only [wrapper, notOperational]
  refine Ensures.bind (setUnavailableResponse_status clock operation _ requestId) (fun _ => ?_)
    exchange trivial
  exact Ensures.pure fun _ refused => ⟨rfl, refused⟩

end Reports

/-- What the outside sees of a snapshot. -/
structure ReportedUnavailable (snapshot : JVLinkHealthSnapshot) : Prop where
  operational : snapshot.operational = false
  faulted : snapshot.faulted = true
  health : ∀ server : WorkerServer, server.wrapper = some snapshot → ∀ clock connection,
    ∀ request : Request, request.ranges = [] →
      (server.serve connection request (handleHealth clock request)).status = 503
  refused : ∀ exchange : Exchange, exchange.server.wrapper = some snapshot →
    ∀ clock operation requestId,
      Ends (fun sound after => sound = false ∧ after.response.status = 503)
        (fun _ after => after.response.status = 503)
        (ensureWrapperOperational clock operation requestId exchange)

theorem reported_of_honest {snapshot : JVLinkHealthSnapshot} (honest : snapshot.Honest)
    (dead : snapshot.worker.faulted = true) : ReportedUnavailable snapshot where
  operational := (honest dead).1
  faulted := (honest dead).2
  health server wrapper clock connection request plain := by
    have notOperational : server.health.operational = false := by
      rw [WorkerServer.health, wrapper]
      exact (honest dead).1
    exact (serve_answers connection plain
      (handleHealth_unhealthy server clock request notOperational)).1
  refused exchange wrapper clock operation requestId :=
    ensureWrapperOperational_refuses clock (honest dead).1 operation requestId exchange wrapper

variable {κ ρ : Type} {jv : JVLink κ}

/-- Over every sequence of calls, a COM thread that has failed is reported, whenever no
COM call is in progress. -/
theorem dead_worker_reported {env : κ} {client : ρ} {calls : List (Call ρ)} {world : World κ ρ}
    (along : Along (callStep jv) (KeepsFlagsTogether jv) (.initial env client) calls)
    (ran : run (callStep jv) (.initial env client) calls = some world) :
    ∀ snapshot ∈ world.wrapper.getHealthSnapshot world.worker :: world.observed,
      snapshot.worker.faulted = true → ReportedUnavailable snapshot := by
  have paired := run_steady along ran
  intro snapshot taken dead
  cases taken with
  | head => exact reported_of_honest paired.now dead
  | tail _ taken => exact reported_of_honest (paired.honest snapshot taken) dead

/-! ## A stored query whose reads time out, and one whose close does -/

/-- Records are read until the script ends, and nothing but this task times out. -/
def stallingJVLink (task : String) : JVLink (List GetsReply) :=
  { scriptedJVLink with
    taskFate := fun name script =>
      (if name = task then .timesOut false else .completes, script) }

def startAndQuery : List (Call Unit) :=
  [.initializeWrapper (utf8 "UNKNOWN"), .queryStored patientClient raceQuery 5]

/-- Where the two calls lead. -/
def afterQuery (task : String) : World (List GetsReply) Unit :=
  ((World.initial [goodReply] ()).after (stallingJVLink task)
    (.initializeWrapper (utf8 "UNKNOWN"))).after (stallingJVLink task)
      (.queryStored patientClient raceQuery 5)

theorem run_startAndQuery (task : String) :
    run (callStep (stallingJVLink task)) (.initial [goodReply] ()) startAndQuery =
      some (afterQuery task) := rfl

theorem dead_worker_reported_stalled_read :
    (afterQuery "jv_gets").worker.faulted = true ∧
      ReportedUnavailable
        ((afterQuery "jv_gets").wrapper.getHealthSnapshot (afterQuery "jv_gets").worker) := by
  have dead : (afterQuery "jv_gets").worker.faulted = true := by decide +kernel
  have along : Along (callStep (stallingJVLink "jv_gets"))
      (KeepsFlagsTogether (stallingJVLink "jv_gets")) (.initial [goodReply] ())
      startAndQuery := by
    refine ⟨⟨by decide +kernel, fun _ _ => rfl⟩, fun next taken => ?_⟩
    cases taken
    exact ⟨⟨by decide +kernel, fun _ other => nomatch other⟩, fun _ _ => trivial⟩
  exact ⟨dead, dead_worker_reported along (run_startAndQuery "jv_gets") _ (by simp) dead⟩

/-- The COM thread is dead and the wrapper is healthy. -/
theorem stalled_close_unreported :
    run (callStep (stallingJVLink "jv_close")) (.initial [goodReply] ()) startAndQuery =
        some (afterQuery "jv_close") ∧
      (afterQuery "jv_close").worker.faulted = true ∧
      ((afterQuery "jv_close").wrapper.getHealthSnapshot
        (afterQuery "jv_close").worker).operational = true :=
  ⟨rfl, by decide +kernel, by decide +kernel⟩

end JVLinkServer.Worker
