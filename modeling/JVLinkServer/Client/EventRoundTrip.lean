import JVLinkServer.Client.EventWatches
import JVLinkServer.JsonText
import JVLinkServer.Worker.EventBody

namespace JVLinkServer.Client

open AsyncGenerators Coroutines Json Quoting Worker

/-! # Events from the server to the client

An event is sent as one line of a text.  Three characters that are not escaped end a line
for the client, which then reads no part of the event.
-/

/-- What is known of `json.loads`: it inverts `dump`, accepts no text with a broken string,
and finds the keys of an object in quotes. -/
structure ReadsJson (loads : Bytes → Except BuiltinException Json) : Prop where
  inverts : ∀ {value : Json} {document : Bytes}, value.Canonical → value.dump = .ok document →
    loads document = .ok value
  calm : ∀ {text : Bytes} {value : Json}, loads text = .ok value → (outside.after text).Calm
  quoted : ∀ {text : Bytes} {members : List (Bytes × Json)}, members ≠ [] →
    loads text = .ok (.object members) → 34 ∈ text

theorem plainJson_reads : ReadsJson plainJson := by
  have parsed {text : Bytes} {value : Json} (read : plainJson text = .ok value) :
      parse text = some value := by
    unfold plainJson at read
    split at read
    · next found =>
        cases read
        exact found
    · contradiction
  constructor
  · intro value document canonical dumped
    simp [plainJson, parse_dump canonical dumped]
  · intro text value read
    exact calm_of_parse (parsed read)
  · intro text members nonempty read
    exact quote_mem_of_parse nonempty (parsed read)

/-! ## The text of an event -/

def decimalText : Int → List Char
  | .ofNat value => Nat.toDigits 10 value
  | .negSucc value => '-' :: Nat.toDigits 10 (value + 1)

def opening : List Char := "\x7b\x22param\x22:\x22".toList

/-- From the end of the parameter to the beginning of the type. -/
def between (timestamp : Int) : List Char :=
  "\x22,\x22timestamp\x22:".toList ++ (decimalText timestamp ++ ",\x22type\x22:\x22".toList)

def closing : List Char := "\x22\x7d".toList

def documentText (event : JVEvent) : List Char :=
  opening ++ escaped event.param.toList ++ between event.timestamp ++
    escaped event.type.toList ++ closing

theorem encoded_digits (value : Nat) : encoded (Nat.toDigits 10 value) = decimalNat value := by
  rw [encoded, utf8_ofList, decimalNat]
  · rfl
  · intro digit inside
    have bounds := digit_bounds (Nat.isDigit_of_mem_toDigits (by decide) (by decide) inside)
    rw [Char.utf8Size_eq_one_iff, UInt32.le_iff_toNat_le]
    exact Nat.le_trans bounds.2 (by decide)

theorem encoded_decimalText (value : Int) : encoded (decimalText value) = decimal value := by
  cases value with
  | ofNat value => exact encoded_digits value
  | negSucc value =>
      change encoded (['-'] ++ Nat.toDigits 10 (value + 1)) = _
      rw [encoded_append, encoded_digits]
      rfl

theorem eventData_members (event : JVEvent) :
    eventData event = .object
      [(utf8 "param", .text event.param), (utf8 "timestamp", .integer event.timestamp),
       (utf8 "type", .text event.type)] := by
  rfl

theorem eventData_injective : Function.Injective eventData := by
  intro first second same
  simp only [eventData_members, Json.object.injEq, List.cons.injEq, Prod.mk.injEq, Json.text,
    Json.string.injEq, Json.integer.injEq, utf8_inj, true_and, and_true] at same
  obtain ⟨param, timestamp, type⟩ := same
  cases first
  cases second
  simp_all

theorem eventData_canonical (event : JVEvent) : (eventData event).Canonical := by
  apply canonical_record
  simp [Canonical]

theorem encoded_opening : encoded opening = 123 :: (renderString (utf8 "param") ++ [58, 34]) :=
  (encoded_toList _).trans (by decide)

theorem encoded_between (timestamp : Int) :
    encoded (between timestamp) =
      34 :: 44 :: (renderString (utf8 "timestamp") ++ 58 :: (decimal timestamp ++
        44 :: (renderString (utf8 "type") ++ [58, 34]))) := by
  have first : encoded "\x22,\x22timestamp\x22:".toList =
      34 :: 44 :: (renderString (utf8 "timestamp") ++ [58]) :=
    (encoded_toList _).trans (by decide)
  have last : encoded ",\x22type\x22:\x22".toList =
      44 :: (renderString (utf8 "type") ++ [58, 34]) :=
    (encoded_toList _).trans (by decide)
  unfold between
  rw [encoded_append, encoded_append, encoded_decimalText, first, last]
  simp

theorem encoded_closing : encoded closing = [34, 125] := (encoded_toList _).trans (by decide)

theorem render_eventData (event : JVEvent) :
    (eventData event).render = encoded (documentText event) := by
  simp only [documentText, encoded_append, encoded_escaped, encoded_toList, encoded_opening,
    encoded_between, encoded_closing]
  rw [eventData_members]
  simp [render, renderMembers, Json.text, renderString]

theorem loads_eventData {loads : Bytes → Except BuiltinException Json} (reads : ReadsJson loads)
    (event : JVEvent) : loads (encoded (documentText event)) = .ok (eventData event) := by
  apply reads.inverts (eventData_canonical event)
  rw [dump, eventData_isText, if_pos rfl, render_eventData]

/-! ## What is stripped -/

theorem punctuation_of_space {char : Char} (space : isPythonSpace char = true) :
    ∀ byte ∈ String.utf8EncodeChar char, isPunctuation byte = true := by
  have neutral {byte : UInt8} (outer : byte < 34 ∨ 128 ≤ byte) : isPunctuation byte = true := by
    simp only [isPunctuation, isPlain, isLetter, Bool.and_eq_true, bne_iff_ne,
      Bool.not_eq_true', Bool.and_eq_false_iff, decide_eq_false_iff_not]
    grind
  intro byte inside
  by_cases ascii : char.toNat < 128
  · rw [encodeChar_ascii ascii] at inside
    obtain rfl := List.mem_singleton.mp inside
    have small : char.toNat < 34 := by
      simp only [isPythonSpace, Bool.or_eq_true, Bool.and_eq_true, decide_eq_true_eq,
        beq_iff_eq] at space
      omega
    apply neutral
    left
    rw [UInt8.lt_iff_toNat_lt, UInt8.toNat_ofNat']
    exact Nat.lt_of_le_of_lt (Nat.mod_le _ _) small
  · exact neutral (.inr (encodeChar_other (by omega) byte inside))

theorem punctuation_of_spaces {text : List Char}
    (spaces : ∀ char ∈ text, isPythonSpace char = true) :
    ∀ byte ∈ encoded text, isPunctuation byte = true := by
  intro byte inside
  rw [encoded_eq] at inside
  obtain ⟨char, member, inside⟩ := List.mem_flatMap.mp inside
  exact punctuation_of_space (spaces char member) byte inside

/-- White space is cut off at both ends. -/
theorem pythonStrip_cut (text : List Char) :
    ∃ before after, text = before ++ pythonStrip text ++ after ∧
      (∀ char ∈ before, isPythonSpace char = true) ∧
      ∀ char ∈ after, isPythonSpace char = true := by
  let tail := text.dropWhile isPythonSpace
  refine ⟨text.takeWhile isPythonSpace, (tail.reverse.takeWhile isPythonSpace).reverse, ?_, ?_, ?_⟩
  · have back := congrArg List.reverse
      (List.takeWhile_append_dropWhile (p := isPythonSpace) (l := tail.reverse))
    rw [List.reverse_append, List.reverse_reverse] at back
    rw [List.append_assoc, pythonStrip, back]
    exact List.takeWhile_append_dropWhile.symm
  · exact fun char inside => List.mem_takeWhile_imp inside
  · exact fun char inside => List.mem_takeWhile_imp (List.mem_reverse.mp inside)

theorem characters_cases (bytes : Bytes) :
    characters bytes = [] ∨ encoded (characters bytes) = bytes := by
  unfold characters
  split
  · next text found =>
      right
      unfold String.fromUTF8? at found
      split at found
      · cases found
        exact encoded_toList _
      · contradiction
  · exact .inl rfl

/-- Nothing is cut off a text between characters that are no space. -/
theorem pythonStrip_of_ends {first last : Char} (text : List Char)
    (solidFirst : isPythonSpace first = false) (solidLast : isPythonSpace last = false) :
    pythonStrip (' ' :: first :: (text ++ [last])) = first :: (text ++ [last]) := by
  have space : isPythonSpace ' ' = true := by decide
  simp [pythonStrip, space, solidFirst, solidLast]

theorem strip_document (event : JVEvent) :
    strip (encoded (' ' :: documentText event)) = encoded (documentText event) := by
  have ends : ∃ text, documentText event = '\x7b' :: (text ++ ['\x7d']) := by
    refine ⟨opening.tail ++ escaped event.param.toList ++ between event.timestamp ++
      escaped event.type.toList ++ ['\x22'], ?_⟩
    have first : opening = '\x7b' :: opening.tail := rfl
    have last : closing = ['\x22', '\x7d'] := rfl
    rw [documentText, first, last]
    simp only [List.cons_append, List.append_assoc, List.tail_cons, List.nil_append]
  obtain ⟨text, shape⟩ := ends
  rw [strip, characters_encoded, shape, pythonStrip_of_ends text (by decide) (by decide)]
  rfl

/-- What `strip` leaves out stands between strings. -/
theorem strip_cut (bytes : Bytes) :
    strip bytes = [] ∨ ∃ before after, bytes = before ++ strip bytes ++ after ∧
      (∀ byte ∈ before, isPunctuation byte = true) ∧ ∀ byte ∈ after, isPunctuation byte = true := by
  obtain empty | whole := characters_cases bytes
  · left
    rw [strip, empty]
    rfl
  · obtain ⟨before, after, cut, spacesBefore, spacesAfter⟩ := pythonStrip_cut (characters bytes)
    refine .inr ⟨encoded before, encoded after, ?_, punctuation_of_spaces spacesBefore,
      punctuation_of_spaces spacesAfter⟩
    conv_lhs => rw [← whole, cut]
    simp only [encoded_append]
    rfl

/-! ## Lines without an event -/

/-- A line whose strings are broken or that has none. -/
def Unreadable (line : Bytes) : Prop := (outside.after line).Calm → 34 ∉ line

/-- Nothing is read from the data of such a line. -/
theorem loads_unreadable {loads : Bytes → Except BuiltinException Json} (reads : ReadsJson loads)
    {data : Bytes} (unreadable : Unreadable (utf8 "data:" ++ data)) (event : JVEvent) :
    loads (strip data) ≠ .ok (eventData event) := by
  intro read
  rw [eventData_members] at read
  have quoted := reads.quoted (by simp) read
  have calm := reads.calm read
  obtain blank | ⟨before, after, cut, neutralBefore, neutralAfter⟩ := strip_cut data
  · rw [blank] at quoted
    cases quoted
  · have label : outside.after (utf8 "data:") = .outside := by decide
    have led : outside.after before = .outside :=
      (after_plain fun byte inside => ((Bool.and_eq_true _ _).mp (neutralBefore byte inside)).1).1
    apply unreadable
    · rw [after_append, label, cut, after_append, after_append, led]
      exact calm.after neutralAfter
    · rw [cut]
      simp [quoted]

theorem outside_escaped (text : List Char) :
    outside.after (encoded (escaped text)) = .broken ∨
      outside.after (encoded (escaped text)) = .outside ∧ 34 ∉ encoded (escaped text) := by
  rw [encoded_escaped]
  exact outside_escapes _

theorem inside_escaped (text : List Char) :
    inside.after (encoded (escaped text)) = .inside := by
  rw [encoded_escaped]
  exact inside_escapes _

theorem plain_decimal (value : Int) : ∀ byte ∈ decimal value, isPlain byte = true := by
  cases value with
  | ofNat value => exact fun byte inside => plain_of_digit (decimalNat_digits value byte inside)
  | negSucc value =>
      intro byte inside
      obtain rfl | inside := List.mem_cons.mp inside
      · decide
      · exact plain_of_digit (decimalNat_digits _ byte inside)

/-- From inside of the parameter to inside of the type. -/
theorem inside_between (timestamp : Int) :
    inside.after (encoded (between timestamp)) = .inside := by
  have first : inside.after (34 :: 44 :: (renderString (utf8 "timestamp") ++ [58])) = .outside := by
    decide
  have last : outside.after (44 :: (renderString (utf8 "type") ++ [58, 34])) = .inside := by decide
  have whole : encoded (between timestamp) =
      34 :: 44 :: (renderString (utf8 "timestamp") ++ [58]) ++ decimal timestamp ++
        44 :: (renderString (utf8 "type") ++ [58, 34]) := by
    rw [encoded_between]
    simp
  rw [whole, after_append, after_append, first, (after_plain (plain_decimal timestamp)).1, last]

/-- Out of place it is broken, for a letter follows on a quote. -/
theorem outside_between (timestamp : Int) (rest : Bytes) :
    outside.after (encoded (between timestamp) ++ rest) = .broken := by
  have early : outside.after [34, 44, 34, 116] = .broken := by decide
  have whole : ∃ tail, encoded (between timestamp) ++ rest = [34, 44, 34, 116] ++ tail := by
    rw [encoded_between]
    exact ⟨_, rfl⟩
  obtain ⟨tail, whole⟩ := whole
  rw [whole, after_append, early, after_broken]

theorem unreadable_inside {line : Bytes} (inside : outside.after line = .inside) :
    Unreadable line := by
  intro calm
  rw [inside] at calm
  obtain same | same := calm <;> cases same

theorem unreadable_broken {line : Bytes} (broken : outside.after line = .broken) :
    Unreadable line := by
  intro calm
  rw [broken] at calm
  obtain same | same := calm <;> cases same

theorem unreadable_escaped (text : List Char) : Unreadable (encoded (escaped text)) := by
  obtain broken | ⟨-, unquoted⟩ := outside_escaped text
  · exact unreadable_broken broken
  · exact fun _ => unquoted

/-- The end of a string without its beginning. -/
theorem unreadable_closing (text : List Char) :
    Unreadable (encoded (escaped text ++ closing)) := by
  rw [encoded_append]
  obtain broken | ⟨outside, -⟩ := outside_escaped text
  · apply unreadable_broken
    rw [after_append, broken, after_broken]
  · apply unreadable_inside
    rw [after_append, outside, encoded_closing]
    rfl

theorem unreadable_between (text rest : List Char) (timestamp : Int) :
    Unreadable (encoded (escaped text ++ between timestamp ++ rest)) := by
  apply unreadable_broken
  rw [List.append_assoc, encoded_append, encoded_append, after_append]
  obtain broken | ⟨outside, -⟩ := outside_escaped text
  · rw [broken, after_broken]
  · rw [outside, outside_between]

/-! ## The lines of a message -/

/-- No character of the event ends a line where it stands in the message. -/
def SingleLine (event : JVEvent) : Prop :=
  ∀ char ∈ event.param.toList ++ event.type.toList, isSeparator char = false

instance (event : JVEvent) : Decidable (SingleLine event) := List.decidableBAll _ _

def eventLabel : List Char := "event: jvlink_event".toList

def dataLabel : List Char := "data: ".toList

def pieceText (piece : StreamPiece) : List Char :=
  match piece with
  | .connected =>
      "event: connected".toList ++ '\n' ::
        ("data: \x7b\x22message\x22: \x22Connected to JVLink event stream\x22\x7d".toList ++
          ['\n', '\n'])
  | .ping => ":ping".toList ++ ['\n', '\n']
  | .event sent => eventLabel ++ '\n' :: (dataLabel ++ documentText sent ++ ['\n', '\n'])

theorem encoded_pieceText (piece : StreamPiece) : encoded (pieceText piece) = piece.message := by
  cases piece with
  | connected => rfl
  | ping => rfl
  | event sent =>
      have label : encoded (eventLabel ++ ['\n']) = utf8 "event: jvlink_event\n" := by decide
      have data : encoded dataLabel = utf8 "data: " := by decide
      have blank : encoded ['\n', '\n'] = utf8 "\n\n" := by decide
      have whole : pieceText (.event sent) =
          (eventLabel ++ ['\n']) ++ (dataLabel ++ documentText sent ++ ['\n', '\n']) := rfl
      rw [whole, encoded_append (eventLabel ++ ['\n']), label, encoded_append, encoded_append, data,
        blank, ← render_eventData]
      simp [StreamPiece.message, eventMessage]

theorem decimalText_inLine (value : Int) : ∀ char ∈ decimalText value, endsLine char = false := by
  have digits (value : Nat) : ∀ char ∈ Nat.toDigits 10 value, endsLine char = false := by
    intro char inside
    have bounds := digit_bounds (Nat.isDigit_of_mem_toDigits (by decide) (by decide) inside)
    unfold endsLine
    simp
    omega
  cases value with
  | ofNat value => exact digits value
  | negSucc value =>
      intro char inside
      obtain rfl | inside := List.mem_cons.mp inside
      · decide
      · exact digits _ char inside

theorem between_inLine (timestamp : Int) :
    ∀ char ∈ between timestamp, endsLine char = false := by
  have first : ∀ char ∈ "\x22,\x22timestamp\x22:".toList, endsLine char = false :=
    inLine_of_all (by decide)
  have last : ∀ char ∈ ",\x22type\x22:\x22".toList, endsLine char = false :=
    inLine_of_all (by decide)
  intro char inside
  obtain inside | inside := List.mem_append.mp inside
  · exact first char inside
  · exact (List.mem_append.mp inside).elim (decimalText_inLine timestamp char) (last char)

theorem inLine_append {first second : List Char} (early : ∀ char ∈ first, endsLine char = false)
    (late : ∀ char ∈ second, endsLine char = false) :
    ∀ char ∈ first ++ second, endsLine char = false :=
  fun char inside => (List.mem_append.mp inside).elim (early char) (late char)

theorem dataLabel_inLine : ∀ char ∈ dataLabel ++ opening, endsLine char = false :=
  inLine_of_all (by decide)

theorem closing_inLine : ∀ char ∈ closing, endsLine char = false := inLine_of_all (by decide)

theorem splitlines_message (event : JVEvent) (rest : List Char) :
    splitlines (pieceText (.event event) ++ rest) =
      eventLabel :: splitlines (dataLabel ++ documentText event ++ '\n' :: '\n' :: rest) := by
  have message : pieceText (.event event) =
      eventLabel ++ '\n' :: (dataLabel ++ documentText event ++ ['\n', '\n']) := rfl
  rw [message, List.append_assoc, List.cons_append, List.append_assoc,
    splitlines_newline (inLine_of_all (by decide))]
  rfl

theorem splitlines_blank {line rest : List Char} (inLine : ∀ char ∈ line, endsLine char = false) :
    splitlines (line ++ '\n' :: '\n' :: rest) = line :: [] :: splitlines rest := by
  rw [splitlines_newline inLine, splitlines_end (by decide) (by decide)]

theorem singleLine_lines {event : JVEvent} (single : SingleLine event) (rest : List Char) :
    splitlines (pieceText (.event event) ++ rest) =
      eventLabel :: (dataLabel ++ documentText event) :: [] :: splitlines rest := by
  have param := escaped_inLine fun char inside => single char (List.mem_append_left _ inside)
  have type := escaped_inLine fun char inside => single char (List.mem_append_right _ inside)
  have inLine : ∀ char ∈ dataLabel ++ documentText event, endsLine char = false := by
    have parts := inLine_append (inLine_append (inLine_append (inLine_append dataLabel_inLine param)
      (between_inLine event.timestamp)) type) closing_inLine
    simpa [documentText] using parts
  rw [splitlines_message, splitlines_blank inLine]

/-- The lines of a string that is cut and ends the document. -/
theorem cut_lines {before text : List Char} (inLine : ∀ char ∈ before, endsLine char = false)
    (unreadable : ∀ part, Unreadable (encoded (before ++ escaped part)))
    (cut : ∃ char ∈ text, isSeparator char = true) (rest : List Char) :
    ∃ fragments, splitlines (before ++ escaped text ++ (closing ++ '\n' :: '\n' :: rest)) =
        fragments ++ [] :: splitlines rest ∧
      ∀ fragment ∈ fragments, Unreadable (encoded fragment) := by
  obtain ⟨fragments, last, lines, plain, shapes⟩ :=
    splitlines_cut inLine cut (closing ++ '\n' :: '\n' :: rest)
  refine ⟨fragments ++ [escaped last ++ closing], ?_, ?_⟩
  · rw [lines, ← List.append_assoc, splitlines_blank (inLine_append (escaped_inLine plain)
      closing_inLine)]
    simp
  · intro fragment inside
    obtain inside | inside := List.mem_append.mp inside
    · obtain ⟨part, rfl⟩ | ⟨part, rfl⟩ := shapes fragment inside
      · exact unreadable part
      · exact unreadable_escaped part
    · obtain rfl := List.mem_singleton.mp inside
      exact unreadable_closing last

theorem inside_opening (text : List Char) :
    outside.after (encoded (dataLabel ++ opening ++ escaped text)) = .inside := by
  have before : outside.after (encoded (dataLabel ++ opening)) = .inside := by decide
  rw [encoded_append, after_append, before, inside_escaped]

/-- The lines of a document from which the beginning of the parameter is cut off. -/
theorem tail_lines {last : List Char} (plain : ∀ char ∈ last, isSeparator char = false)
    (type : List Char) (timestamp : Int) (rest : List Char) :
    ∃ fragments, splitlines (escaped last ++ between timestamp ++ escaped type ++
          (closing ++ '\n' :: '\n' :: rest)) = fragments ++ [] :: splitlines rest ∧
      ∀ fragment ∈ fragments, Unreadable (encoded fragment) := by
  have inLine := inLine_append (escaped_inLine plain) (between_inLine timestamp)
  by_cases cut : ∃ char ∈ type, isSeparator char = true
  · exact cut_lines inLine (fun part => unreadable_between last (escaped part) timestamp) cut rest
  · have typeInLine : ∀ char ∈ escaped type, endsLine char = false :=
      escaped_inLine (by simpa using cut)
    refine ⟨[escaped last ++ between timestamp ++ escaped type ++ closing], ?_, ?_⟩
    · rw [← List.append_assoc, splitlines_blank
        (inLine_append (inLine_append inLine typeInLine) closing_inLine)]
      rfl
    · intro fragment inside
      obtain rfl := List.mem_singleton.mp inside
      rw [List.append_assoc]
      exact unreadable_between last _ timestamp

/-- Every line of a message that is cut is unreadable. -/
theorem cut_message {event : JVEvent} (cut : ¬ SingleLine event) (rest : List Char) :
    ∃ fragments, splitlines (pieceText (.event event) ++ rest) =
        eventLabel :: (fragments ++ [] :: splitlines rest) ∧
      ∀ fragment ∈ fragments, Unreadable (encoded fragment) := by
  have whole : dataLabel ++ documentText event ++ '\n' :: '\n' :: rest =
      dataLabel ++ opening ++ escaped event.param.toList ++ (between event.timestamp ++
        escaped event.type.toList ++ (closing ++ '\n' :: '\n' :: rest)) := by
    simp only [documentText, List.append_assoc]
  rw [splitlines_message, whole]
  by_cases cutParam : ∃ char ∈ event.param.toList, isSeparator char = true
  · obtain ⟨fragments, last, lines, plain, shapes⟩ := splitlines_cut dataLabel_inLine cutParam
      (between event.timestamp ++ escaped event.type.toList ++
        (closing ++ '\n' :: '\n' :: rest))
    obtain ⟨others, otherLines, unreadable⟩ := tail_lines plain event.type.toList
      event.timestamp rest
    refine ⟨fragments ++ others, ?_, ?_⟩
    · rw [lines, ← List.append_assoc (escaped last), ← List.append_assoc (escaped last), otherLines,
        List.append_assoc fragments]
    · intro fragment inside
      obtain inside | inside := List.mem_append.mp inside
      · obtain ⟨part, rfl⟩ | ⟨part, rfl⟩ := shapes fragment inside
        · exact unreadable_inside (inside_opening part)
        · exact unreadable_escaped part
      · exact unreadable fragment inside
  · have paramInLine : ∀ char ∈ escaped event.param.toList, endsLine char = false :=
      escaped_inLine (by simpa using cutParam)
    have cutType : ∃ char ∈ event.type.toList, isSeparator char = true := by
      by_contra uncut
      apply cut
      intro char inside
      obtain inside | inside := List.mem_append.mp inside
      · exact Bool.eq_false_of_not_eq_true fun found => cutParam ⟨char, inside, found⟩
      · exact Bool.eq_false_of_not_eq_true fun found => uncut ⟨char, inside, found⟩
    have inLine := inLine_append (inLine_append dataLabel_inLine paramInLine)
      (between_inLine event.timestamp)
    have unreadable : ∀ part, Unreadable (encoded (dataLabel ++ opening ++
        escaped event.param.toList ++ between event.timestamp ++ escaped part)) := by
      intro part
      apply unreadable_inside
      rw [encoded_append, encoded_append, after_append, after_append, inside_opening,
        inside_between, inside_escaped]
    obtain ⟨fragments, lines, unreadable⟩ := cut_lines inLine unreadable cutType rest
    refine ⟨fragments, ?_, unreadable⟩
    rw [← List.append_assoc (_ ++ escaped _), ← List.append_assoc (_ ++ escaped _), lines]

/-! ## The events that are read -/

section Events

variable {library : PythonLibrary}

theorem eventsOf_connected (rest : List Char) (eventType : Option Bytes) :
    eventsOf library ((splitlines (pieceText .connected ++ rest)).map encoded) eventType =
      eventsOf library ((splitlines rest).map encoded) none := rfl

theorem eventsOf_ping (rest : List Char) (eventType : Option Bytes) :
    eventsOf library ((splitlines (pieceText .ping ++ rest)).map encoded) eventType =
      eventsOf library ((splitlines rest).map encoded) eventType := rfl

variable (reads : ReadsJson library.loads)
include reads

theorem eventsOf_event {event : JVEvent} (single : SingleLine event) (rest : List Char)
    (eventType : Option Bytes) :
    eventsOf library ((splitlines (pieceText (.event event) ++ rest)).map encoded) eventType =
      eventData event :: eventsOf library ((splitlines rest).map encoded) none := by
  have labelled (lines : List Bytes) :
      eventsOf library (encoded eventLabel :: lines) eventType =
        eventsOf library lines (some (utf8 "jvlink_event")) := rfl
  rw [singleLine_lines single, List.map_cons, labelled, List.map_cons, List.map_cons, eventsOf]
  have data : encoded (dataLabel ++ documentText event) =
      utf8 "data:" ++ encoded (' ' :: documentText event) := by
    have label : encoded dataLabel = utf8 "data:" ++ encoded [' '] := by decide
    rw [encoded_append, label, List.append_assoc, ← encoded_append]
    rfl
  have bytes : utf8 "data:" = [100, 97, 116, 97, 58] := by decide
  have solid : (utf8 "data:" ++ encoded (' ' :: documentText event)).isEmpty = false := by
    rw [bytes]
    rfl
  have notLabel : ¬ utf8 "event:" <+: utf8 "data:" ++ encoded (' ' :: documentText event) := by
    have other : utf8 "event:" = [101, 118, 101, 110, 116, 58] := by decide
    rw [bytes, other]
    simp
  have connected : some (utf8 "jvlink_event") ≠ some (utf8 "connected") := by decide
  have kept : (utf8 "data:" ++ encoded (' ' :: documentText event)).drop 5 =
      encoded (' ' :: documentText event) := List.drop_left' (by decide)
  rw [data, kept, strip_document, loads_eventData reads]
  simp [solid, notLabel, connected]
  rfl

theorem eventsOf_unreadable {lines fragments : List Bytes} {event : JVEvent}
    (unreadable : ∀ fragment ∈ fragments, Unreadable fragment)
    (absent : ∀ eventType, eventData event ∉ eventsOf library lines eventType) :
    ∀ eventType, eventData event ∉ eventsOf library (fragments ++ lines) eventType := by
  induction fragments with
  | nil => exact absent
  | cons fragment fragments ih =>
      have later := ih fun other inside => unreadable other (by simp [inside])
      intro eventType
      rw [List.cons_append, eventsOf]
      split
      · exact later _
      · split
        · exact later _
        · split
          · exact later _
          · next labelled =>
              obtain ⟨data, rfl⟩ := not_not.mp labelled
              have first := loads_unreadable reads (unreadable _ List.mem_cons_self) event
              have kept : (utf8 "data:" ++ data).drop 5 = data := List.drop_left' (by decide)
              rw [kept]
              split
              · exact later _
              · split
                · split
                  · next read =>
                      rw [List.mem_cons, not_or]
                      refine ⟨?_, later _⟩
                      rintro rfl
                      exact first read
                  · exact later _
                  · simp
                · exact later _

/-- A message that is cut yields nothing that an event could be taken for. -/
theorem eventsOf_cut {event other : JVEvent} (cut : ¬ SingleLine other) {rest : List Char}
    (absent : ∀ eventType,
      eventData event ∉ eventsOf library ((splitlines rest).map encoded) eventType) :
    ∀ eventType, eventData event ∉
      eventsOf library ((splitlines (pieceText (.event other) ++ rest)).map encoded) eventType := by
  intro eventType
  obtain ⟨fragments, lines, unreadable⟩ := cut_message cut rest
  have labelled (lines : List Bytes) :
      eventsOf library (encoded eventLabel :: lines) eventType =
        eventsOf library lines (some (utf8 "jvlink_event")) := rfl
  have blank (lines : List Bytes) (eventType : Option Bytes) :
      eventsOf library (encoded [] :: lines) eventType = eventsOf library lines eventType := rfl
  rw [lines, List.map_cons, labelled, List.map_append, List.map_cons]
  apply eventsOf_unreadable reads
  · intro line inside
    obtain ⟨fragment, member, rfl⟩ := List.mem_map.mp inside
    exact unreadable fragment member
  · intro eventType
    rw [blank]
    exact absent eventType

def bodyText (pieces : List StreamPiece) : List Char := pieces.flatMap pieceText

omit reads in
theorem textLines_body (pieces : List StreamPiece) :
    textLines (streamBody pieces) = (splitlines (bodyText pieces)).map encoded := by
  have whole : streamBody pieces = encoded (bodyText pieces) := by
    induction pieces with
    | nil => rfl
    | cons piece pieces ih =>
        change piece.message ++ streamBody pieces = encoded (pieceText piece ++ bodyText pieces)
        rw [ih, encoded_append, encoded_pieceText]
  rw [textLines, whole, characters_encoded]

/-- The events of a body without a cut message. -/
theorem eventsOf_body {pieces : List StreamPiece}
    (single : ∀ event ∈ streamedEvents pieces, SingleLine event) :
    eventsOf library ((splitlines (bodyText pieces)).map encoded) none =
      (streamedEvents pieces).map eventData := by
  induction pieces with
  | nil => rfl
  | cons piece pieces ih =>
      change eventsOf library ((splitlines (pieceText piece ++ bodyText pieces)).map encoded) none
        = _
      cases piece with
      | connected => exact (eventsOf_connected _ _).trans (ih single)
      | ping => exact (eventsOf_ping _ _).trans (ih single)
      | event sent =>
          have later := ih fun other inside => single other (List.mem_cons_of_mem _ inside)
          rw [eventsOf_event reads (single sent List.mem_cons_self), later]
          rfl

/-- An event whose message is cut is not read. -/
theorem cut_not_read {event : JVEvent} (cut : ¬ SingleLine event) (pieces : List StreamPiece) :
    ∀ eventType, eventData event ∉
      eventsOf library ((splitlines (bodyText pieces)).map encoded) eventType := by
  induction pieces with
  | nil => exact fun _ => List.not_mem_nil
  | cons piece pieces ih =>
      intro eventType
      change eventData event ∉
        eventsOf library ((splitlines (pieceText piece ++ bodyText pieces)).map encoded) eventType
      cases piece with
      | connected =>
          rw [eventsOf_connected]
          exact ih none
      | ping =>
          rw [eventsOf_ping]
          exact ih eventType
      | event sent =>
          by_cases single : SingleLine sent
          · rw [eventsOf_event reads single, List.mem_cons, not_or]
            refine ⟨fun same => ?_, ih none⟩
            rw [eventData_injective same] at cut
            exact cut single
          · exact eventsOf_cut reads single ih eventType

end Events

/-- The events that are sent are the events that are received, for any consumer and any end
of the response, if and only if none of them has a character that ends a line. -/
theorem event_round_trip_iff (library : PythonLibrary) (reads : ReadsJson library.loads)
    (ending closing : Option (Raised HttpxException)) (pieces : List StreamPiece) :
    (∀ count, (HttpTransport.streamEvents library).values count
        (EventStream.created { ending, closing } (textLines (streamBody pieces))) =
      ((streamedEvents pieces).map eventData).take count) ↔
      ∀ event ∈ streamedEvents pieces, SingleLine event := by
  have received : ∀ count, (HttpTransport.streamEvents library).values count
      (EventStream.created { ending, closing } (textLines (streamBody pieces))) =
        (eventsOf library ((splitlines (bodyText pieces)).map encoded) none).take count := by
    intro count
    rw [← textLines_body]
    exact (created_feeds library { ending, closing } _).values count
  constructor
  · intro same event inside
    by_contra cut
    have whole := (received _).symm.trans (same ((streamedEvents pieces).map eventData).length)
    rw [List.take_length] at whole
    have read := List.mem_map_of_mem (f := eventData) inside
    rw [← whole] at read
    exact cut_not_read reads cut pieces none (List.mem_of_mem_take read)
  · intro single count
    rw [received, eventsOf_body reads single]

theorem event_round_trip_iff_pinged :
    (HttpTransport.streamEvents plainLibrary).values 4
        (EventStream.created { ending := none, closing := none }
          (textLines (streamBody [.connected, .ping, .event
            { type := "JVEvtPay", param := "202401010101", timestamp := 1 }]))) =
      [eventData { type := "JVEvtPay", param := "202401010101", timestamp := 1 }] :=
  (event_round_trip_iff plainLibrary plainJson_reads none none _).mpr (by decide) 4

/-- A parameter with the line separator U+2028. -/
def separated : JVEvent :=
  { type := "JVEvtPay", param := String.ofList [Char.ofNat 0x2028], timestamp := 1 }

/-- An event with a line separator never comes out of the stream. -/
theorem separated_event_lost :
    ¬ ∀ (library : PythonLibrary), ReadsJson library.loads → ∀ (pieces : List StreamPiece) count,
      (HttpTransport.streamEvents library).values count
          (EventStream.created {} (textLines (streamBody pieces))) =
        ((streamedEvents pieces).map eventData).take count := by
  intro claimed
  have lost : ((HttpTransport.streamEvents plainLibrary).values 1
      (EventStream.created {} (textLines (streamBody [.event separated])))).length = 0 := by
    decide +kernel
  rw [claimed plainLibrary plainJson_reads] at lost
  cases lost

end JVLinkServer.Client
