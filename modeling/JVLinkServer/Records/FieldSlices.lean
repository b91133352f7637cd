import JVLinkServer.JsonRoundTrip
import JVLinkServer.JsonLines
import JVLinkServer.Records.RecordParser
import JVLinkServer.Slices

namespace JVLinkServer.Records

/-! # The fields of a record

The parser of a record type assigns the fields of a JSON object one by one, each from a
fixed slice of the record.  It is a list of such statements here.
-/

/-- A field that is one text, or an array of texts of one size. -/
inductive Slice
  | text (name : String) (start size : Nat)
  | array (name : String) (start size count : Nat)
  deriving DecidableEq, Repr

/-- The entries that a loop leaves out, by the text at their beginning: when it has nothing
but spaces, or when it is that text. -/
inductive Skip
  | never
  | spaces (size : Nat)
  | text (size : Nat) (value : String)
  deriving DecidableEq, Repr

/-- A statement, or a loop over entries of one size, in which places count from the start
of the entry. -/
inductive Statement
  | field (slice : Slice)
  | objects (name : String) (start stride count : Nat) (skip : Skip) (entry : List Slice)
  deriving DecidableEq, Repr

namespace Statement

abbrev text (name : String) (start size : Nat) : Statement := .field (.text name start size)

abbrev array (name : String) (start size count : Nat) : Statement :=
  .field (.array name start size count)

end Statement

def Slice.name : Slice → String
  | text name _ _ | array name _ _ _ => name

def Statement.name : Statement → String
  | .field slice => slice.name
  | .objects name _ _ _ _ _ => name

/-! ## What is emitted -/

section Extraction

-- The UTF-8 text that Windows makes of a C string of code page 932, or nothing when one of
-- its functions returns 0.
variable (codePage : Bytes → Option Bytes)

def extractField (rawData : Bytes) (start length : Nat) : Bytes :=
  if rawData.length < start + length then [] else JVLinkServer.slice start length rawData

def convertEncoding (shiftJis : Bytes) : Bytes :=
  if shiftJis.isEmpty then []
  else (codePage (shiftJis.takeWhile (· != 0))).getD shiftJis

def extractAndConvert (rawData : Bytes) (start length : Nat) : Bytes :=
  convertEncoding codePage (extractField rawData start length)

def extractAndConvertArray (rawData : Bytes) (startPos elementSize count : Nat) : Json :=
  .array ((List.range count).map fun i =>
    .string (extractAndConvert codePage rawData (startPos + i * elementSize) elementSize))

variable (rawData : Bytes)

def Slice.emit (basePos : Nat) : Slice → Json
  | text _ start size => .string (extractAndConvert codePage rawData (basePos + start) size)
  | array _ start size count =>
      extractAndConvertArray codePage rawData (basePos + start) size count

def Skip.leavesOut (basePos : Nat) : Skip → Bool
  | never => false
  | spaces size => (extractAndConvert codePage rawData basePos size).all (· == 32)
  | text size value => extractAndConvert codePage rawData basePos size == utf8 value

/-- The members of an entry. -/
def emitEntry (entry : List Slice) (basePos : Nat) : List (String × Json) :=
  entry.map fun slice => (slice.name, slice.emit codePage rawData basePos)

/-- The places of the entries that are not left out. -/
def Statement.kept (start stride count : Nat) (skip : Skip) : List Nat :=
  ((List.range count).map fun i => start + i * stride).filter
    fun basePos => !skip.leavesOut codePage rawData basePos

def Statement.emit : Statement → Json
  | .field slice => slice.emit codePage rawData 0
  | .objects _ start stride count skip entry =>
      .array ((Statement.kept codePage rawData start stride count skip).map fun basePos =>
        .record (emitEntry codePage rawData entry basePos))

/-- The assignments of a parser, in their order. -/
def emitFields (statements : List Statement) : List (String × Json) :=
  statements.map fun statement => (statement.name, statement.emit codePage rawData)

end Extraction

/-! ## Members -/

section Members

variable {codePage : Bytes → Option Bytes} {rawData : Bytes}

/-- A number for a name, by which names are told apart. -/
def nameCode (name : String) : Nat :=
  (utf8 name).foldl (fun code byte => code * 256 + byte.toNat) 0

theorem nodup_of_codes {names : List String} (distinct : (names.map nameCode).Nodup) :
    names.Nodup :=
  List.Nodup.of_map nameCode distinct

/-- The only assignment to a key is what is found under it. -/
theorem member?_record_of_mem {members : List (String × Json)} {name : String} {value : Json}
    (distinct : (members.map Prod.fst).Nodup) (assigned : (name, value) ∈ members) :
    (Json.record members).member? name = some value := by
  have only : ∀ member ∈ members, member.1 = name → member = (name, value) := by
    intro member inside same
    exact List.inj_on_of_nodup_map distinct inside assigned same
  rw [Json.member?_record]
  cases found : members.reverse.find? fun member => name == member.1 with
  | none =>
      have missing := List.find?_eq_none.mp found (name, value) (List.mem_reverse.mpr assigned)
      simp at missing
  | some member =>
      have inside := List.mem_reverse.mp (List.mem_of_find?_eq_some found)
      have same : name = member.1 := by simpa using List.find?_some found
      rw [only member inside same.symm]
      rfl

theorem member?_record_none {members : List (String × Json)} {name : String}
    (absent : name ∉ members.map Prod.fst) : (Json.record members).member? name = none := by
  rw [Json.member?_record, Option.map_eq_none_iff, List.find?_eq_none]
  intro member inside same
  apply absent
  rw [eq_of_beq same]
  exact List.mem_map_of_mem (List.mem_reverse.mp inside)

theorem emitFields_names (statements : List Statement) :
    (emitFields codePage rawData statements).map Prod.fst = statements.map Statement.name := by
  simp [emitFields]

theorem emitEntry_names (entry : List Slice) (basePos : Nat) :
    (emitEntry codePage rawData entry basePos).map Prod.fst = entry.map Slice.name := by
  simp [emitEntry]

theorem member?_emitFields {statements : List Statement} {statement : Statement}
    (distinct : (statements.map Statement.name).Nodup) (inside : statement ∈ statements) :
    (Json.record (emitFields codePage rawData statements)).member? statement.name =
      some (statement.emit codePage rawData) := by
  apply member?_record_of_mem
  · rw [emitFields_names]
    exact distinct
  · exact List.mem_map.mpr ⟨statement, inside, rfl⟩

theorem member?_emitEntry {entry : List Slice} {slice : Slice} {basePos : Nat}
    (distinct : (entry.map Slice.name).Nodup) (inside : slice ∈ entry) :
    (Json.record (emitEntry codePage rawData entry basePos)).member? slice.name =
      some (slice.emit codePage rawData basePos) := by
  apply member?_record_of_mem
  · rw [emitEntry_names]
    exact distinct
  · exact List.mem_map.mpr ⟨slice, inside, rfl⟩

end Members

end JVLinkServer.Records
