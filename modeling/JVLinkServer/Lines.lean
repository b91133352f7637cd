import Mathlib

namespace JVLinkServer.Lines

/-! # Texts in lines

A reader that is fed a text in pieces splits it at a separator and keeps what comes
after the last one.  A line is solid when there is something on it.
-/

variable {α : Type}

structure Reader (α : Type) where
  lines : List (List α) := []
  rest : List α := []

namespace Reader

/-- The lines at the end of the text; nothing after a last separator is no line. -/
def finish (reader : Reader α) : List (List α) :=
  if reader.rest.isEmpty then reader.lines else reader.lines ++ [reader.rest]

/-- The solid ones among them. -/
def solid (reader : Reader α) : List (List α) :=
  (reader.lines ++ [reader.rest]).filter (!·.isEmpty)

theorem finish_solid (reader : Reader α) : reader.finish.filter (!·.isEmpty) = reader.solid := by
  unfold finish solid
  split
  next blank => simp [List.filter_append, blank]
  next => rfl

theorem lines_of_blank {reader : Reader α} (blank : reader.rest = []) :
    reader.lines.filter (!·.isEmpty) = reader.solid := by
  simp [solid, List.filter_append, blank]

variable [DecidableEq α] (separator : α)

def feedOne (reader : Reader α) (char : α) : Reader α :=
  if char = separator then { lines := reader.lines ++ [reader.rest] }
  else { reader with rest := reader.rest ++ [char] }

def feed (reader : Reader α) (text : List α) : Reader α := text.foldl (feedOne separator) reader

end Reader

section Feeding

variable [DecidableEq α] (separator : α)

def splitLines (text : List α) : List (List α) := (({} : Reader α).feed separator text).finish

def solidLines (text : List α) : List (List α) := (({} : Reader α).feed separator text).solid

variable {separator} {reader : Reader α} {text rest : List α}

@[simp] theorem feed_nil : reader.feed separator [] = reader := rfl

@[simp] theorem feed_append :
    reader.feed separator (text ++ rest) = (reader.feed separator text).feed separator rest :=
  List.foldl_append

@[simp] theorem feed_separator :
    reader.feed separator [separator] = { lines := reader.lines ++ [reader.rest] } := by
  simp [Reader.feed, Reader.feedOne]

theorem feed_plain (plain : separator ∉ text) :
    reader.feed separator text = { reader with rest := reader.rest ++ text } := by
  induction text generalizing reader with
  | nil => simp
  | cons char text ih =>
      have different : char ≠ separator := fun same => plain (by simp [same])
      have step : reader.feed separator (char :: text) =
          Reader.feed separator { reader with rest := reader.rest ++ [char] } text := by
        simp [Reader.feed, Reader.feedOne, different]
      rw [step, ih fun member => plain (List.mem_cons_of_mem _ member)]
      simp

theorem solid_separator : (reader.feed separator [separator]).solid = reader.solid := by
  rw [feed_separator]
  cases blank : reader.rest.isEmpty <;>
    simp [Reader.solid, List.filter_append, blank]

theorem splitLines_solid : (splitLines separator text).filter (!·.isEmpty) =
    solidLines separator text :=
  Reader.finish_solid _

end Feeding

/-! ## Readers that differ in blank lines -/

/-- Both stand at the same place of a line, after the same solid lines. -/
structure Alike (reader other : Reader α) : Prop where
  lines : reader.lines.filter (!·.isEmpty) = other.lines.filter (!·.isEmpty)
  rest : reader.rest = other.rest

/-- Neither has begun a line. -/
structure AtStart (reader other : Reader α) : Prop where
  alike : Alike reader other
  blank : reader.rest = []

theorem Alike.solid {reader other : Reader α} (alike : Alike reader other) :
    reader.solid = other.solid := by
  simp only [Reader.solid, List.filter_append, alike.lines, alike.rest]

section Feeding

variable [DecidableEq α] {separator : α} {reader other : Reader α}

theorem Alike.feedOne (alike : Alike reader other) (char : α) :
    Alike (reader.feedOne separator char) (other.feedOne separator char) := by
  obtain ⟨lines, rest⟩ := alike
  unfold Reader.feedOne
  split
  · constructor <;> simp [List.filter_append, lines, rest]
  · constructor <;> simp [lines, rest]

theorem Alike.feed (alike : Alike reader other) (text : List α) :
    Alike (reader.feed separator text) (other.feed separator text) := by
  induction text generalizing reader other with
  | nil => exact alike
  | cons char text ih => exact ih (alike.feedOne char)

theorem AtStart.wholeLine (start : AtStart reader other) (text : List α) :
    AtStart (reader.feed separator (text ++ [separator]))
      (other.feed separator (text ++ [separator])) :=
  ⟨start.alike.feed _, by simp⟩

theorem AtStart.blankLine (start : AtStart reader other) :
    AtStart (reader.feed separator [separator]) other := by
  obtain ⟨⟨lines, rest⟩, blank⟩ := start
  refine ⟨⟨?_, ?_⟩, ?_⟩
  · simp [List.filter_append, lines, blank]
  · simp [← rest, blank]
  · simp

/-- Both end a line, though one of them may have done so before. -/
theorem AtStart.ofSolid (same : reader.solid = other.solid) :
    AtStart (reader.feed separator [separator]) (other.feed separator [separator]) := by
  refine ⟨⟨?_, by simp⟩, by simp⟩
  rw [Reader.lines_of_blank (by simp), Reader.lines_of_blank (by simp), solid_separator,
    solid_separator]
  exact same

end Feeding

end JVLinkServer.Lines
