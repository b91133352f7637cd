import JVLinkServer.Client.RaceIds

namespace JVLinkServer.Client

/-! # Readings of fields

The decoder of a record type reads fields of the payload under their names, each with one
conversion.  It is a list of such readings here.
-/

/-- The value of an attribute that is no list of items. -/
inductive FieldValue
  | str (value : Option (List Char))
  | int (value : Option Int)
  | float (tenths : Option Int)
  | date (value : Option CalendarDate)
  | time (value : Option ClockTime)
  | moment (value : Option Moment)
  | saleFlag (value : Option SaleFlag)
  | ints (values : List Int)
  | strs (values : List (List Char))
  deriving DecidableEq, Repr

inductive Reading
  | str | int | float | date | time | saleFlag | ints | strs
  deriving DecidableEq, Repr

/-- An attribute is called as the field that it is read from. -/
abbrev Field := String × Reading

abbrev Item := List (String × FieldValue)

/-- Rows of a list without the field `required` are left out. -/
inductive Attribute
  | field (name : String) (reading : Reading)
  | items (name : String) (required : Option String) (fields : List Field)
  deriving DecidableEq, Repr

namespace Attribute

abbrev str (name : String) : Attribute := .field name .str

abbrev int (name : String) : Attribute := .field name .int

abbrev float (name : String) : Attribute := .field name .float

abbrev date (name : String) : Attribute := .field name .date

abbrev time (name : String) : Attribute := .field name .time

abbrev saleFlag (name : String) : Attribute := .field name .saleFlag

abbrev ints (name : String) : Attribute := .field name .ints

abbrev strs (name : String) : Attribute := .field name .strs

def name : Attribute → String
  | field name _ | items name _ _ => name

end Attribute

inductive AttributeValue
  | field (value : FieldValue)
  | items (rows : List Item)
  deriving DecidableEq, Repr

section Readings

variable (python : PythonStr)

def decodeIntArray (values : Option Json) : List Int :=
  (toList values).map fun item => (toInt? python (some item)).getD 0

def decodeStrArray (values : Option Json) : List (List Char) :=
  (toList values).map fun item => (toText python (some item)).getD []

def Reading.read (value : Option Json) : Reading → Converted FieldValue
  | .str => .ok (.str (toText python value))
  | .int => .ok (.int (toInt? python value))
  | .float => do return .float (← toFloat python value)
  | .date => .ok (.date (toDateYyyymmdd python value))
  | .time => do return .time (← toTimeHhmm python value)
  | .saleFlag => .ok (.saleFlag (toSaleFlag python value))
  | .ints => .ok (.ints (decodeIntArray python value))
  | .strs => .ok (.strs (decodeStrArray python value))

/-- The keyword arguments of an item. -/
def readItem (fields : List Field) (row : Json) : Converted Item :=
  fields.mapM fun field => do return (field.1, ← field.2.read python (row.member? field.1))

/-- The condition under which the loop over the rows goes on with the next one. -/
def skipsRow (required : Option String) (row : Json) : Bool :=
  match row with
  | .object [] => true
  | _ =>
      match required with
      | none => false
      | some name => (toText python (row.member? name)).isNone

/-- The loop over the rows of a list. -/
def readItems (required : Option String) (fields : List Field) (values : Option Json) :
    Converted (List Item) :=
  let rows := (toList values).map fun item => toDict (some item)
  (rows.filter fun row => !skipsRow python required row).mapM (readItem python fields)

def Attribute.read (payload : Json) : Attribute → Converted AttributeValue
  | field name reading => do return .field (← reading.read python (payload.member? name))
  | items name required fields => do
      return .items (← readItems python required fields (payload.member? name))

end Readings

/-! ## Decoders -/

/-- What the keyword arguments of a record begin with. -/
inductive Prologue
  | race | announcedRace | announcedMeet | header | dated
  deriving DecidableEq, Repr

/-- `_meet_kwargs` -/
def meetKwargs (context : RaceContext) : List (String × AttributeValue) :=
  [("data_code", .field (.str context.dataCode)),
   ("data_creation_date", .field (.date context.dataCreationDate)),
   ("meet_year", .field (.int context.meetYear)),
   ("meet_month", .field (.int context.meetMonth)),
   ("meet_day_of_month", .field (.int context.meetDayOfMonth)),
   ("racecourse_code", .field (.str context.racecourseCode)),
   ("meet_round", .field (.int context.meetRound)),
   ("meet_day", .field (.int context.meetDay))]

/-- `_context_kwargs` -/
def contextKwargs (context : RaceContext) : List (String × AttributeValue) :=
  meetKwargs context ++
    [("race_number", .field (.int context.raceNumber)),
     ("race_id", .field (.str context.raceId)),
     ("race_id_short", .field (.str context.raceIdShort))]

section Decoders

variable (python : PythonStr) (payload : Json)

/-- `_build_header_context` -/
def headerKwargs : List (String × AttributeValue) :=
  [("data_code", .field (.str (toText python (payload.member? "data_code")))),
   ("data_creation_date",
     .field (.date (toDateYyyymmdd python (payload.member? "data_creation_date"))))]

def Prologue.decode : Prologue → Converted (List (String × AttributeValue))
  | race => do return contextKwargs (← buildContext python payload)
  | announcedRace => do
      let context ← buildContext python payload
      let announcementAt ← decodeAnnouncement python payload context
      return contextKwargs context ++ [("announcement_at", .field (.moment announcementAt))]
  | announcedMeet => do
      let context ← buildContext python payload
      let announcementAt ← decodeAnnouncement python payload context
      return meetKwargs context ++ [("announcement_at", .field (.moment announcementAt))]
  | header => .ok (headerKwargs python payload)
  | dated => do
      let monthDay ← toMonthDay python (payload.member? "meet_date")
      return headerKwargs python payload ++
        [("meet_month", .field (.int (monthDay.map Prod.fst))),
         ("meet_day_of_month", .field (.int (monthDay.map Prod.snd)))]

/-- The decoder of one type. -/
structure Decoder where
  prologue : Prologue
  attributes : List Attribute
  deriving DecidableEq, Repr

/-- The keyword arguments of the record. -/
def Decoder.decode (decoder : Decoder) : Converted (List (String × AttributeValue)) := do
  let shared ← decoder.prologue.decode python payload
  let own ← decoder.attributes.mapM fun own => do
    return (own.name, ← own.read python payload)
  return shared ++ own

end Decoders

end JVLinkServer.Client
