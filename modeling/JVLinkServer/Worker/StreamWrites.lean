import JVLinkServer.Lines
import JVLinkServer.Text

namespace JVLinkServer.Worker

open Lines

/-! # The writes of a streamed response

The heartbeat thread writes single newlines to the sink.  The lock of the sink keeps
them out of a write, and out of an error line, which is written under one lock.
-/

inductive StreamWrite
  | metaLine (body : Bytes)
  | recordLine (body : Bytes)
  | errorLine (line : Bytes)
  deriving DecidableEq, Repr

/-- What is written under one lock each. -/
def StreamWrite.locked : StreamWrite → List Bytes
  | .metaLine body | .recordLine body => [body, [newline]]
  | .errorLine line => [line ++ [newline]]

/-- `out` is made of the writes of a stream and of so many heartbeats. -/
inductive Interleaved : (made : List Bytes) → (heartbeats : Nat) → (out : List Bytes) → Prop
  | start : Interleaved [] 0 []
  | write {made heartbeats out} (data : Bytes) (rest : Interleaved made heartbeats out) :
      Interleaved (data :: made) heartbeats (data :: out)
  | heartbeat {made heartbeats out} (rest : Interleaved made heartbeats out) :
      Interleaved made (heartbeats + 1) ([newline] :: out)

/-- Writes that go on from the start of a line or from within one. -/
inductive GoesOnFrom : (within : Bool) → List Bytes → Prop
  | ends (within : Bool) : GoesOnFrom within []
  | body {rest} (data : Bytes) (goesOn : GoesOnFrom true rest) : GoesOnFrom false (data :: rest)
  | newline {rest} (goesOn : GoesOnFrom false rest) : GoesOnFrom true ([newline] :: rest)
  | line {rest} (text : Bytes) (goesOn : GoesOnFrom false rest) :
      GoesOnFrom false ((text ++ [JVLinkServer.newline]) :: rest)

theorem goesOnFrom_locked (writes : List StreamWrite) :
    GoesOnFrom false (writes.flatMap StreamWrite.locked) := by
  induction writes with
  | nil => exact .ends false
  | cons first writes ih =>
      cases first with
      | metaLine body | recordLine body => exact .body body (.newline ih)
      | errorLine line => exact .line line ih

/-- A stream may break off between any two writes. -/
theorem GoesOnFrom.ofPrefix {within : Bool} {all made : List Bytes} (goesOn : GoesOnFrom within all)
    (cut : made <+: all) : GoesOnFrom within made := by
  induction goesOn generalizing made with
  | ends within =>
      obtain rfl : made = [] := by simpa using cut
      exact .ends within
  | body data _ ih =>
      rcases List.prefix_cons_iff.mp cut with rfl | ⟨made, rfl, shorter⟩
      · exact .ends false
      · exact .body data (ih shorter)
  | newline _ ih =>
      rcases List.prefix_cons_iff.mp cut with rfl | ⟨made, rfl, shorter⟩
      · exact .ends true
      · exact .newline (ih shorter)
  | line text _ ih =>
      rcases List.prefix_cons_iff.mp cut with rfl | ⟨made, rfl, shorter⟩
      · exact .ends false
      · exact .line text (ih shorter)

/-- How a reader with heartbeats stands beside one without. -/
def Stands : (within : Bool) → Reader UInt8 → Reader UInt8 → Prop
  | false, reader, other => AtStart reader other
  | true, reader, other => reader.solid = other.solid

theorem Stands.solid {within : Bool} {reader other : Reader UInt8}
    (stands : Stands within reader other) : reader.solid = other.solid := by
  cases within with
  | false => exact AtStart.alike stands |>.solid
  | true => exact stands

theorem Stands.heartbeat {within : Bool} {reader other : Reader UInt8}
    (stands : Stands within reader other) :
    Stands within (reader.feed newline [newline]) other := by
  cases within with
  | false => exact AtStart.blankLine stands
  | true => exact solid_separator.trans stands

theorem Interleaved.solid {made out : List Bytes} {heartbeats : Nat}
    (interleaved : Interleaved made heartbeats out) {within : Bool} (goesOn : GoesOnFrom within made)
    {reader other : Reader UInt8} (stands : Stands within reader other) :
    (reader.feed newline out.flatten).solid = (other.feed newline made.flatten).solid := by
  induction interleaved generalizing within reader other with
  | start => exact stands.solid
  | heartbeat rest ih =>
      rw [List.flatten_cons, feed_append]
      exact ih goesOn stands.heartbeat
  | write data rest ih =>
      rw [List.flatten_cons, List.flatten_cons, feed_append, feed_append]
      cases goesOn with
      | body data goesOn => exact ih goesOn ((AtStart.alike stands).feed data).solid
      | newline goesOn => exact ih goesOn (AtStart.ofSolid stands)
      | line text goesOn => exact ih goesOn (AtStart.wholeLine stands text)

/-- The solid lines are those of the stream alone. -/
theorem Interleaved.solidLines {writes : List StreamWrite} {made out : List Bytes}
    {heartbeats : Nat} (interleaved : Interleaved made heartbeats out)
    (cut : made <+: writes.flatMap StreamWrite.locked) :
    solidLines newline out.flatten = Lines.solidLines newline made.flatten :=
  interleaved.solid ((goesOnFrom_locked writes).ofPrefix cut)
    (show Stands false {} {} from ⟨⟨rfl, rfl⟩, rfl⟩)

end JVLinkServer.Worker
