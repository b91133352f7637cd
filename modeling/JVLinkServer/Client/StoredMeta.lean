import JVLinkServer.Json
import JVLinkServer.PythonText

namespace JVLinkServer.Client

/-! # The metadata of a stored query

One dictionary goes out with the iterator of a query, and the generators write to it.
-/

structure StoredQueryMeta where
  fanout : Bool
  dataspec : String
  dataspecs : List String
  readCount : Int := 0
  downloadCount : Int := 0
  lastFileTimestamp : Bytes := []
  resumeFromDatetimeByDataspec : List (String × Option Bytes)
  perDataspec : List Json
  streamedRecords : Int := 0
  completed : Bool := false

/-- `_meta_int` -/
def metaInt : Option Json → Int
  | some (.bool value) => if value then 1 else 0
  | some (.integer value) => value
  | some (.string value) => (pythonInt? (characters value)).getD 0
  | _ => 0

/-- Assignment to a key of a dictionary. -/
def assign {β : Type} (key : String) (value : β) : List (String × β) → List (String × β)
  | [] => [(key, value)]
  | (other, kept) :: rest =>
      if other = key then (key, value) :: rest else (other, kept) :: assign key value rest

@[simp] theorem lookup_assign {β : Type} (key : String) (value : β) (entries : List (String × β)) :
    (assign key value entries).lookup key = some value := by
  induction entries with
  | nil => simp [assign]
  | cons entry entries ih =>
      obtain ⟨other, kept⟩ := entry
      by_cases same : other = key
      · simp [assign, same]
      · have apart : (key == other) = false := by simpa using Ne.symm same
        simp [assign, same, List.lookup, apart, ih]

theorem lookup_assign_other {β : Type} {key other : String} (apart : other ≠ key) (value : β)
    (entries : List (String × β)) :
    (assign key value entries).lookup other = entries.lookup other := by
  induction entries with
  | nil =>
      have differs : (other == key) = false := by simpa using apart
      simp [assign, List.lookup, differs]
  | cons entry entries ih =>
      obtain ⟨first, kept⟩ := entry
      by_cases same : first = key
      · subst same
        have differs : (other == first) = false := by simpa using apart
        simp [assign, List.lookup, differs]
      · simp only [assign, same, if_false, List.lookup, ih]

section Lookup

variable {γ : Type}

theorem lookup_eq_none {pairs : List (String × γ)} {key : String}
    (absent : key ∉ pairs.map (·.1)) : pairs.lookup key = none := by
  induction pairs with
  | nil => rfl
  | cons pair pairs ih =>
      simp only [List.map_cons, List.mem_cons, not_or] at absent
      have apart : (key == pair.1) = false := by simpa using absent.1
      rw [List.lookup_cons, apart]
      exact ih absent.2

theorem lookup_eq_some {pairs : List (String × γ)} (distinct : (pairs.map (·.1)).Nodup)
    {key : String} {value : γ} : pairs.lookup key = some value ↔ (key, value) ∈ pairs := by
  induction pairs with
  | nil => simp
  | cons pair pairs ih =>
      obtain ⟨first, held⟩ := pair
      rw [List.map_cons, List.nodup_cons] at distinct
      rw [List.lookup_cons, List.mem_cons, ← ih distinct.2]
      by_cases same : key = first
      · subst same
        have later : pairs.lookup key = none := lookup_eq_none distinct.1
        simp [later, eq_comm]
      · have apart : (key == first) = false := by simpa using same
        simp [apart, same]

end Lookup

/-! ## The entries of `per_dataspec` -/

def membersOf (payload : Json) : List (Bytes × Json) :=
  match payload with
  | .object members => members
  | _ => []

/-- The dictionary of a dataspec with the members of a payload, which come last. -/
def dataspecEntry (dataspec : String) (payload : Json) : Json :=
  .ofMembers ((utf8 "dataspec", .text dataspec) :: membersOf payload)

/-- `entry.get("dataspec")`, if it is a string. -/
def entryName? (entry : Json) : Option Bytes := (entry.member? "dataspec").bind Json.string?

/-- The loop of `_upsert_per_dataspec_meta`. -/
def upsertEntry (dataspec : String) (payload : Json) : List Json → List Json
  | [] => [dataspecEntry dataspec payload]
  | entry :: entries =>
      if entryName? entry = some (utf8 dataspec) then dataspecEntry dataspec payload :: entries
      else entry :: upsertEntry dataspec payload entries

def pendingPayload : Json := .record [("pending", .bool true)]

def skippedPayload : Json :=
  .record [("skipped", .bool true), ("reason", .text "record_types_filter")]

namespace StoredQueryMeta

/-- `_upsert_per_dataspec_meta` -/
def upsertPerDataspec (metadata : StoredQueryMeta) (dataspec : String) (payload : Json) :
    StoredQueryMeta :=
  { metadata with perDataspec := upsertEntry dataspec payload metadata.perDataspec }

/-- `_build_stored_meta_base` -/
def base (dataspec : String) (dataspecs : List String) (fanout : Bool) : StoredQueryMeta where
  fanout := fanout
  dataspec := dataspec
  dataspecs := dataspecs
  resumeFromDatetimeByDataspec := dataspecs.map fun spec => (spec, none)
  perDataspec := dataspecs.map fun spec => dataspecEntry spec pendingPayload

/-- The member `last_file_timestamp`, if it is a string. -/
def lastTimestamp? (specMeta : Json) : Option Bytes :=
  (specMeta.member? "last_file_timestamp").bind Json.string?

/-- `_merge_stored_meta`, of metadata that is an object, as a server writes it.  The source
raises on other metadata, which here counts as empty. -/
def merge (metadata : StoredQueryMeta) (dataspec : String) (specMeta : Json) : StoredQueryMeta :=
  let timestamp? := lastTimestamp? specMeta
  let latest := match timestamp? with
    | some timestamp =>
        if metadata.lastFileTimestamp < timestamp then timestamp else metadata.lastFileTimestamp
    | none => metadata.lastFileTimestamp
  upsertPerDataspec
    { metadata with
      readCount := metadata.readCount + metaInt (specMeta.member? "read_count")
      downloadCount := metadata.downloadCount + metaInt (specMeta.member? "download_count")
      lastFileTimestamp := latest
      resumeFromDatetimeByDataspec :=
        assign dataspec timestamp? metadata.resumeFromDatetimeByDataspec }
    dataspec specMeta

variable (metadata : StoredQueryMeta) (dataspec : String) (specMeta : Json)

@[simp] theorem merge_streamedRecords :
    (metadata.merge dataspec specMeta).streamedRecords = metadata.streamedRecords := rfl

@[simp] theorem merge_completed :
    (metadata.merge dataspec specMeta).completed = metadata.completed := rfl

@[simp] theorem merge_resume :
    (metadata.merge dataspec specMeta).resumeFromDatetimeByDataspec =
      assign dataspec (lastTimestamp? specMeta) metadata.resumeFromDatetimeByDataspec := rfl

end StoredQueryMeta

end JVLinkServer.Client
