import JVLinkServer.Client.FieldConverters

namespace JVLinkServer.Client

/-! # Identifiers of races

The fields that records about a race begin with, and what is computed from them: the
identifiers of the race and the time of an announcement.
-/

structure RaceIdParts where
  meetYear : Option Int
  meetMonth : Option Int
  meetDayOfMonth : Option Int
  racecourseCode : Option (List Char)
  meetRound : Option Int
  meetDay : Option Int
  raceNumber : Option Int

def buildRaceId (parts : RaceIdParts) : Option (List Char) := do
  let meetYear ← parts.meetYear
  let meetMonth ← parts.meetMonth
  let meetDayOfMonth ← parts.meetDayOfMonth
  let racecourseCode ← parts.racecourseCode
  let meetRound ← parts.meetRound
  let meetDay ← parts.meetDay
  let raceNumber ← parts.raceNumber
  let racecourseCode := pythonStrip racecourseCode
  if racecourseCode.length ≠ 2 then none
  else
    return zeroPadded 4 meetYear ++ zeroPadded 2 meetMonth ++ zeroPadded 2 meetDayOfMonth ++
      racecourseCode ++ zeroPadded 2 meetRound ++ zeroPadded 2 meetDay ++ zeroPadded 2 raceNumber

def buildRaceIdShort (parts : RaceIdParts) : Option (List Char) := do
  let meetYear ← parts.meetYear
  let meetMonth ← parts.meetMonth
  let meetDayOfMonth ← parts.meetDayOfMonth
  let racecourseCode ← parts.racecourseCode
  let raceNumber ← parts.raceNumber
  let racecourseCode := pythonStrip racecourseCode
  if racecourseCode.length ≠ 2 then none
  else
    return zeroPadded 4 meetYear ++ zeroPadded 2 meetMonth ++ zeroPadded 2 meetDayOfMonth ++
      racecourseCode ++ zeroPadded 2 raceNumber

structure AnnouncementParts where
  announcementMonth : Option Int
  announcementDay : Option Int
  announcementHour : Option Int
  announcementMinute : Option Int
  dataCreationDate : Option CalendarDate
  meetYear : Option Int

/-- An instant without seconds. -/
structure Moment where
  date : CalendarDate
  time : ClockTime
  deriving DecidableEq, Repr

/-- `datetime(year, month, day, hour, minute)`, or nothing when it raises `ValueError`.  A year
that is no C integer is another error. -/
def moment? (year month day hour minute : Int) : Converted (Option Moment) :=
  if year < -2147483648 ∨ 2147483647 < year then .error .overflowError
  else
    match clockTime? hour minute with
    | none => .ok none
    | some time =>
        if real : (1 ≤ year ∧ year ≤ 9999) ∧ 0 ≤ month ∧ 0 ≤ day ∧
            isRealDate year.toNat month.toNat day.toNat then
          .ok (some ⟨⟨_, _, _, real.2.2.2, by omega⟩, time⟩)
        else .ok none

def inferAnnouncementAt (parts : AnnouncementParts) : Converted (Option Moment) :=
  match parts.announcementMonth, parts.announcementDay, parts.announcementHour,
      parts.announcementMinute with
  | some month, some day, some hour, some minute =>
      let sameDay? := parts.dataCreationDate.filter fun date =>
        (date.month : Int) = month && (date.day : Int) = day
      let year? := match sameDay? with
        | some date => some (date.year : Int)
        | none => parts.meetYear
      match year? with
      | none => .ok none
      | some year => moment? year month day hour minute
  | _, _, _, _ => .ok none

/-! ## The fields that records share -/

/-- `_RaceContext` -/
structure RaceContext where
  dataCode : Option (List Char)
  dataCreationDate : Option CalendarDate
  meetYear : Option Int
  meetMonth : Option Int
  meetDayOfMonth : Option Int
  racecourseCode : Option (List Char)
  meetRound : Option Int
  meetDay : Option Int
  raceNumber : Option Int
  raceId : Option (List Char)
  raceIdShort : Option (List Char)

section Context

variable (python : PythonStr) (payload : Json)

/-- `_build_context` -/
def buildContext : Converted RaceContext := do
  let monthDay ← toMonthDay python (payload.member? "meet_date")
  let parts : RaceIdParts :=
    { meetYear := toInt? python (payload.member? "meet_year")
      meetMonth := monthDay.map Prod.fst
      meetDayOfMonth := monthDay.map Prod.snd
      racecourseCode := toText python (payload.member? "racecourse_code")
      meetRound := toInt? python (payload.member? "meet_round")
      meetDay := toInt? python (payload.member? "meet_day")
      raceNumber := toInt? python (payload.member? "race_number") }
  return {
    dataCode := toText python (payload.member? "data_code")
    dataCreationDate := toDateYyyymmdd python (payload.member? "data_creation_date")
    meetYear := parts.meetYear
    meetMonth := parts.meetMonth
    meetDayOfMonth := parts.meetDayOfMonth
    racecourseCode := parts.racecourseCode
    meetRound := parts.meetRound
    meetDay := parts.meetDay
    raceNumber := parts.raceNumber
    raceId := buildRaceId parts
    raceIdShort := buildRaceIdShort parts }

/-- `_decode_announcement` -/
def decodeAnnouncement (context : RaceContext) : Converted (Option Moment) := do
  let announcement ← toMmddhhmmParts python (payload.member? "announcement_datetime")
  inferAnnouncementAt
    { announcementMonth := announcement.map (·.month)
      announcementDay := announcement.map (·.day)
      announcementHour := announcement.map (·.hour)
      announcementMinute := announcement.map (·.minute)
      dataCreationDate := context.dataCreationDate
      meetYear := context.meetYear }

end Context

end JVLinkServer.Client
