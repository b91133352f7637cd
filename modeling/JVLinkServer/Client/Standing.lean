import JVLinkServer.Client.Consumption
import JVLinkServer.Client.Fanout

namespace JVLinkServer.Client

open AsyncGenerators

/-! # Where a consumer stands

After some calls of `anext` a consumer stands in one of the responses of a query, or the
query has ended.
-/

variable {ε : Type}

/-- Why a query has ended. -/
inductive Stop (ε : Type)
  | exhausted
  | limit
  | failed (exception : ε)
  | refused (request : StoredRequest) (exception : ε)

def Stop.completes : Stop ε → Bool
  | .exhausted | .limit => true
  | .failed _ | .refused _ _ => false

def Stop.exception? : Stop ε → Option ε
  | .exhausted | .limit => none
  | .failed exception | .refused _ exception => some exception

/-- A request and its answer. -/
abbrev Leg (ε : Type) := StoredRequest × Answer ε

/-- The legs that have been read to their ends, the last leg, and the rows of it that have
come out. -/
structure Standing (ε : Type) where
  done : List (Leg ε) := []
  request : StoredRequest
  answer : Answer ε
  taken : Nat
  ended : Option (Stop ε) := none

namespace Standing

def behind (legs : List (Leg ε)) (standing : Standing ε) : Standing ε :=
  { standing with done := legs ++ standing.done }

@[simp] theorem behind_nil (standing : Standing ε) : standing.behind [] = standing := rfl

@[simp] theorem behind_behind (first second : List (Leg ε)) (standing : Standing ε) :
    (standing.behind second).behind first = standing.behind (first ++ second) := by
  simp [behind]

variable (excludeDeletions : Bool) (standing : Standing ε)

def legs : List (Leg ε) := standing.done ++ [(standing.request, standing.answer)]

/-- The rows that have come out. -/
def yielded : List Json :=
  standing.done.flatMap (fun leg => keptRows excludeDeletions leg.2.rows) ++
    (keptRows excludeDeletions standing.answer.rows).take standing.taken

def requests : List StoredRequest :=
  standing.legs.map (·.1) ++
    match standing.ended with
    | some (.refused request _) => [request]
    | _ => []

/-- The response of the last leg. -/
def response : Response ε :=
  match standing.ended with
  | none => standing.answer.responseAfter excludeDeletions standing.taken
  | some .limit =>
      { standing.answer.responseAfter excludeDeletions standing.taken with
        closed := standing.answer.noData ||
          (frameAfter standing.taken == .suspended && !excludeDeletions) }
  | some _ =>
      { sent := standing.answer.rows, rows := [], failure := standing.answer.failure, closed := true }

/-- The responses of the legs before it, with their dataspecs. -/
def doneResponses : List (String × Response ε) :=
  standing.done.map fun leg =>
    (leg.1.dataspec, { sent := leg.2.rows, rows := [], failure := none, closed := true })

def completed : Bool :=
  match standing.ended with
  | none => false
  | some stop => stop.completes

/-- The exception that the query has ended with. -/
def exception? : Option ε := standing.ended.bind Stop.exception?

/-- The points to resume from that the metadata of the legs gives. -/
def resumePoints (points : List (String × Option Bytes)) : List (String × Option Bytes) :=
  standing.legs.foldl
    (fun points leg =>
      assign leg.1.dataspec (StoredQueryMeta.lastTimestamp? leg.2.metadata) points)
    points

end Standing

/-- The standing after some calls from the beginning of a leg, with dataspecs to come. -/
def standing (arguments : StoredArguments) (transport : Transport ε) :
    (pending : List String) → (remaining : Option Int) → StoredRequest → Answer ε →
      (count : Nat) → Standing ε
  | pending, remaining, request, answer, count =>
      let kept := keptRows arguments.excludeDeletions answer.rows
      if count ≤ share remaining kept then { request, answer, taken := count }
      else if limitHit remaining kept then
        { request, answer, taken := share remaining kept, ended := some .limit }
      else
        match answer.failure with
        | some exception =>
            { request, answer, taken := kept.length, ended := some (.failed exception) }
        | none =>
            match pending with
            | [] => { request, answer, taken := kept.length, ended := some .exhausted }
            | spec :: rest =>
                let left := remaining.map (· - (kept.length : Int))
                let next := arguments.request spec left
                match transport next with
                | .error exception =>
                    { request, answer, taken := kept.length
                      ended := some (.refused next exception) }
                | .ok answered =>
                    (standing arguments transport rest left next answered
                      (count - kept.length)).behind [(request, answer)]

section Equations

variable {arguments : StoredArguments} {transport : Transport ε} {pending : List String}
  {remaining : Option Int} {request : StoredRequest} {answer : Answer ε} {count : Nat}

theorem standing_within
    (within : count ≤ share remaining (keptRows arguments.excludeDeletions answer.rows)) :
    standing arguments transport pending remaining request answer count =
      { request, answer, taken := count } := by
  rw [standing.eq_def]
  simp only [if_pos within]

variable (past : share remaining (keptRows arguments.excludeDeletions answer.rows) < count)
include past

theorem standing_hit
    (hit : limitHit remaining (keptRows arguments.excludeDeletions answer.rows) = true) :
    standing arguments transport pending remaining request answer count =
      { request, answer
        taken := share remaining (keptRows arguments.excludeDeletions answer.rows)
        ended := some .limit } := by
  rw [standing.eq_def]
  simp only [if_neg (Nat.not_le_of_lt past), hit, if_true]

variable (room : limitHit remaining (keptRows arguments.excludeDeletions answer.rows) = false)
include room

theorem standing_failed {exception : ε} (failure : answer.failure = some exception) :
    standing arguments transport pending remaining request answer count =
      { request, answer, taken := (keptRows arguments.excludeDeletions answer.rows).length
        ended := some (.failed exception) } := by
  rw [standing.eq_def]
  simp only [if_neg (Nat.not_le_of_lt past), room, failure, Bool.false_eq_true, if_false]

variable (failure : answer.failure = none)
include failure

theorem standing_exhausted :
    standing arguments transport [] remaining request answer count =
      { request, answer, taken := (keptRows arguments.excludeDeletions answer.rows).length
        ended := some .exhausted } := by
  rw [standing.eq_def]
  simp only [if_neg (Nat.not_le_of_lt past), room, failure, Bool.false_eq_true, if_false]

variable {spec : String} {rest : List String} {next : StoredRequest}
  (asks : next = arguments.request spec (remaining.map
    (· - ((keptRows arguments.excludeDeletions answer.rows).length : Int))))
include asks

theorem standing_refused {exception : ε} (refuses : transport next = .error exception) :
    standing arguments transport (spec :: rest) remaining request answer count =
      { request, answer, taken := (keptRows arguments.excludeDeletions answer.rows).length
        ended := some (.refused next exception) } := by
  rw [standing.eq_def]
  simp only [if_neg (Nat.not_le_of_lt past), room, failure, Bool.false_eq_true, if_false, ← asks,
    refuses]

theorem standing_next {answered : Answer ε} (answers : transport next = .ok answered) :
    standing arguments transport (spec :: rest) remaining request answer count =
      (standing arguments transport rest
        (remaining.map (· - ((keptRows arguments.excludeDeletions answer.rows).length : Int)))
        next answered
        (count - (keptRows arguments.excludeDeletions answer.rows).length)).behind
          [(request, answer)] := by
  rw [standing.eq_def]
  simp only [if_neg (Nat.not_le_of_lt past), room, failure, Bool.false_eq_true, if_false, ← asks,
    answers]

end Equations

/-! ## The variables at a standing -/

structure Tally.Stands (limit : Option Int) (points : List (String × Option Bytes))
    (excludeDeletions : Bool) (standing : Standing ε) (tally : Tally) : Prop where
  remaining : tally.remaining =
    limit.map (· - ((standing.yielded excludeDeletions).length : Int))
  streamed : tally.metadata.streamedRecords = (standing.yielded excludeDeletions).length
  resume : tally.metadata.resumeFromDatetimeByDataspec = standing.resumePoints points
  completed : tally.metadata.completed = standing.completed

section Tally

variable {limit : Option Int} {points : List (String × Option Bytes)} {excludeDeletions : Bool}
  {done : List (Leg ε)} {request : StoredRequest} {answer : Answer ε} {taken : Nat}
  {tally : Tally}

/-- What the limit leaves after the legs that are done. -/
def leftAfter (limit : Option Int) (excludeDeletions : Bool) (done : List (Leg ε)) :
    Option Int :=
  limit.map
    (· - ((done.flatMap fun leg => keptRows excludeDeletions leg.2.rows).length : Int))

@[simp] theorem leftAfter_nil :
    leftAfter limit excludeDeletions ([] : List (Leg ε)) = limit := by
  cases limit <;> simp [leftAfter]

theorem leftAfter_leg (leg : Leg ε) :
    leftAfter limit excludeDeletions (done ++ [leg]) =
      (leftAfter limit excludeDeletions done).map
        (· - ((keptRows excludeDeletions leg.2.rows).length : Int)) := by
  rw [leftAfter, leftAfter, Option.map_map]
  congr 1
  funext remaining
  simp only [List.flatMap_append, List.length_append, List.flatMap_singleton,
    Function.comp_apply]
  omega

theorem Tally.Stands.left (stands : tally.Stands limit points excludeDeletions
      { done, request, answer, taken })
    (within : taken ≤ (keptRows excludeDeletions answer.rows).length) :
    tally.remaining = (leftAfter limit excludeDeletions done).map (· - (taken : Int)) := by
  rw [stands.remaining, leftAfter, Option.map_map]
  congr 1
  funext remaining
  simp only [Standing.yielded, List.length_append, List.length_take, Function.comp_apply,
    Nat.min_eq_left within]
  omega

theorem Tally.Stands.count (stands : tally.Stands limit points excludeDeletions
      { done, request, answer, taken })
    (inside : taken < (keptRows excludeDeletions answer.rows).length) :
    tally.count.Stands limit points excludeDeletions
      { done, request, answer, taken := taken + 1 } where
  remaining := by
    rw [Tally.count]
    dsimp only
    rw [stands.remaining, Option.map_map]
    congr 1
    funext remaining
    simp only [Standing.yielded, List.length_append, List.length_take, Function.comp_apply,
      Nat.min_eq_left (Nat.le_of_lt inside), Nat.min_eq_left (Nat.succ_le_of_lt inside)]
    omega
  streamed := by
    rw [Tally.count]
    dsimp only
    rw [stands.streamed]
    simp only [Standing.yielded, List.length_append, List.length_take,
      Nat.min_eq_left (Nat.le_of_lt inside), Nat.min_eq_left (Nat.succ_le_of_lt inside)]
    omega
  resume := stands.resume
  completed := stands.completed

/-- The variables when a query ends. -/
theorem Tally.Stands.stop (stands : tally.Stands limit points excludeDeletions
      { done, request, answer, taken })
    {stop : Stop ε} {completed : Bool} (completes : completed = stop.completes)
    (streamExhausted : Bool) :
    Tally.Stands limit points excludeDeletions
      { done, request, answer, taken, ended := some stop }
      { tally with streamExhausted, metadata := { tally.metadata with completed } } where
  remaining := stands.remaining
  streamed := stands.streamed
  resume := stands.resume
  completed := completes

end Tally

end JVLinkServer.Client
