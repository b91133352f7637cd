import JVLinkServer.Client.LineRows
import JVLinkServer.Worker.StreamWrites

namespace JVLinkServer.Client

open Lines Worker

/-! # Heartbeats

The client looks for the metadata past lines of white space and for the rows past
empty lines.  Either way the newlines of the heartbeat thread leave no trace.
-/

/-- The lines of `aiter_lines`, which end at newlines. -/
def aiterLines (body : Bytes) : List Bytes := splitLines newline body

/-- The lines that are not empty. -/
def solid (lines : List Bytes) : List Bytes := lines.filter (!·.isEmpty)

section Heartbeats

variable (python : PythonStr) (library : PythonLibrary)

/-- What the transport gets out of a response: the metadata and the rows with the
exception after them, or the exception instead of them, and whether it was closed. -/
def received (response : HttpResponse) :
    Except PythonException (Answer PythonException) × ResponseState :=
  let fetched := fetchAndParseStream python library (.responds response)
  (fetched.1.map (Opened.answer python library), fetched.2)

variable {python library} {failure : Option HttpxException} {lines : List Bytes}

theorem rowsOf_solid :
    rowsOf python library failure (solid lines) = rowsOf python library failure lines := by
  induction lines with
  | nil => rfl
  | cons line rest ih =>
      cases empty : line.isEmpty with
      | true =>
          rw [rowsOf, if_pos empty, ← ih]
          simp [solid, empty]
      | false =>
          have kept : solid (line :: rest) = line :: solid rest := by simp [solid, empty]
          rw [kept]
          simp only [rowsOf, empty, ih]

variable (failure lines) in
/-- An empty line is one of white space. -/
theorem readMetadataLine_solid :
    readMetadataLine failure (solid lines) =
      (readMetadataLine failure lines).map fun read => (read.1, solid read.2) := by
  induction lines with
  | nil => cases failure <;> rfl
  | cons line rest ih =>
      cases empty : line.isEmpty with
      | true =>
          obtain rfl : line = [] := List.isEmpty_iff.mp empty
          have blank : pythonStrip (characters []) = [] := by decide
          rw [readMetadataLine, if_pos blank, ← ih]
          simp [solid]
      | false =>
          have kept : solid (line :: rest) = line :: solid rest := by simp [solid, empty]
          rw [kept, readMetadataLine, readMetadataLine]
          split
          · exact ih
          · rfl

/-- The same stream with other lines. -/
def Opened.withLines (lines : List Bytes) (opened : Opened) : Opened := { opened with lines }

theorem openRows_lines (metadata : Json) :
    openRows python library failure metadata lines =
      (openRows python library failure metadata []).map (Opened.withLines lines) := by
  unfold openRows
  cases raising (contains "error_code" metadata) with
  | error exception => rfl
  | ok coded =>
      cases coded with
      | false => rfl
      | true =>
          cases raising (subscript "error_code" metadata) with
          | error exception => rfl
          | ok code =>
              simp only [bind, Except.bind, if_true]
              split
              · split
                · rfl
                · split <;> rfl
              · rfl

variable (lines) in
theorem openStream_lines (metaData : Json) :
    openStream python library failure metaData lines =
      (openStream python library failure metaData []).map (Opened.withLines lines) := by
  have opened : (do
        if !(← raising (contains "meta" metaData)) then
          throw (dataError (utf8 "Missing 'meta' in streaming response header."))
        openRows python library failure (← raising (subscript "meta" metaData)) lines) =
      Except.map (Opened.withLines lines) (do
        if !(← raising (contains "meta" metaData)) then
          throw (dataError (utf8 "Missing 'meta' in streaming response header."))
        openRows python library failure (← raising (subscript "meta" metaData)) []) := by
    cases raising (contains "meta" metaData) with
    | error exception => rfl
    | ok described =>
        cases described with
        | false => rfl
        | true =>
            cases raising (subscript "meta" metaData) with
            | error exception => rfl
            | ok metadata => exact openRows_lines metadata
  unfold openStream
  cases raising (contains "error" metaData) with
  | error exception => rfl
  | ok reported =>
      cases reported with
      | false => exact opened
      | true =>
          cases raising (subscript "error" metaData) with
          | error exception => rfl
          | ok info =>
              simp only [bind, Except.bind, if_true]
              cases raising (getMember "message" (Json.text "Unknown error") info) with
              | error exception => rfl
              | ok message => cases raising (getMember "code" .null info) <;> rfl

/-- The response without its empty lines. -/
def HttpResponse.solid (response : HttpResponse) : HttpResponse :=
  { response with lines := Client.solid response.lines }

variable (python library) in
theorem readOpening_solid (response : HttpResponse) :
    readOpening python library response.solid =
      (readOpening python library response).map fun opened =>
        opened.withLines (solid opened.lines) := by
  unfold readOpening
  have unchanged : response.solid.isSuccess = response.isSuccess := rfl
  rw [unchanged]
  split
  · have read := readMetadataLine_solid response.failure response.lines
    change (readMetadataLine response.failure (solid response.lines) >>= _) = _
    rw [read]
    cases readMetadataLine response.failure response.lines with
    | error exception => rfl
    | ok line =>
        obtain ⟨line, rest⟩ := line
        simp only [bind, Except.bind, Except.map]
        cases loadsLine library (utf8 "Invalid JSON in metadata line: " ++ ·) line with
        | error exception => rfl
        | ok metaData =>
            simp only []
            rw [openStream_lines rest, openStream_lines (solid rest)]
            cases opened : openStream python library response.failure metaData [] with
            | error exception =>
                change (openStream python library response.failure metaData []).map _ = _
                rw [opened]
                rfl
            | ok stream =>
                change (openStream python library response.failure metaData []).map _ = _
                rw [opened]
                rfl
  · rfl

theorem received_solid (response : HttpResponse) :
    received python library response.solid = received python library response := by
  have opening := readOpening_solid python library response
  unfold received fetchAndParseStream
  simp only [opening]
  cases readOpening python library response with
  | error exception => rfl
  | ok opened =>
      have answered : (opened.withLines (solid opened.lines)).answer python library =
          opened.answer python library := by
        simp [Opened.answer, Opened.withLines, rowsOf_solid]
      change (Except.ok ((opened.withLines (solid opened.lines)).answer python library), _) = _
      rw [answered]
      rfl

variable (python library) in
/-- However the writes of a stream and any number of heartbeats are interleaved, the
client gets the metadata, the rows and the exception that it gets without heartbeats. -/
theorem heartbeats_invisible (response : HttpResponse) {writes : List StreamWrite}
    {made out : List Bytes} {heartbeats : Nat} (cut : made <+: writes.flatMap StreamWrite.locked)
    (interleaved : Interleaved made heartbeats out) :
    received python library { response with lines := aiterLines out.flatten } =
      received python library { response with lines := aiterLines made.flatten } := by
  have same : solid (aiterLines out.flatten) = solid (aiterLines made.flatten) := by
    unfold solid aiterLines
    rw [splitLines_solid, splitLines_solid]
    exact interleaved.solidLines cut
  rw [← received_solid, ← received_solid { response with lines := aiterLines made.flatten }]
  unfold HttpResponse.solid
  rw [same]

end Heartbeats

/-- A heartbeat between a record and its newline. -/
theorem heartbeat_within_record :
    received plainText plainLibrary
        { status := 200
          lines := aiterLines [utf8 "\x7b\x7d", [newline], utf8 "[]", [newline], [newline]].flatten } =
      received plainText plainLibrary
        { status := 200
          lines := aiterLines [utf8 "\x7b\x7d", [newline], utf8 "[]", [newline]].flatten } :=
  heartbeats_invisible plainText plainLibrary { status := 200 }
    (show _ <+: [StreamWrite.metaLine (utf8 "\x7b\x7d"), .recordLine (utf8 "[]")].flatMap _ from
      List.prefix_refl _)
    (.write _ (.write _ (.write _ (.heartbeat (.write _ .start)))))

end JVLinkServer.Client
