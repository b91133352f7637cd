import JVLinkServer.JsonLines
import JVLinkServer.JsonText
import JVLinkServer.Lines

namespace JVLinkServer

open Lines

/-! # Lines of bytes and lines of characters

A body is written in lines that end at newlines and read in lines that end at more
characters.  The solid lines are the same when no written line has such a character.
-/

/-! ## Splitting at a separator -/

section Separated

variable {α : Type} [DecidableEq α] {separator : α} {line rest : List α}

theorem feed_after (lines : List (List α)) (reader : Reader α) (text : List α) :
    Reader.feed separator { reader with lines := lines ++ reader.lines } text =
      { reader.feed separator text with lines := lines ++ (reader.feed separator text).lines } := by
  induction text generalizing reader with
  | nil => rfl
  | cons char text ih =>
      have step : Reader.feedOne separator { reader with lines := lines ++ reader.lines } char =
          { reader.feedOne separator char with
            lines := lines ++ (reader.feedOne separator char).lines } := by
        unfold Reader.feedOne
        split <;> simp
      change Reader.feed separator (Reader.feedOne separator _ char) text = _
      rw [step]
      exact ih (reader.feedOne separator char)

theorem solidLines_last (plain : separator ∉ line) :
    solidLines separator line = [line].filter (!·.isEmpty) := by
  rw [solidLines, feed_plain plain]
  simp [Reader.solid]

theorem solidLines_more (plain : separator ∉ line) :
    solidLines separator (line ++ separator :: rest) =
      [line].filter (!·.isEmpty) ++ solidLines separator rest := by
  have ended : Reader.feed separator {} (line ++ [separator]) =
      { ({} : Reader α) with lines := [line] ++ ({} : Reader α).lines } := by
    rw [feed_append, feed_plain plain, feed_separator]
    rfl
  rw [List.append_cons, solidLines, feed_append, ended, feed_after]
  simp only [Reader.solid, solidLines, List.filter_append, List.append_assoc]

variable (separator) in
/-- A text is lines one after the other. -/
theorem lines_induction {motive : List α → Prop}
    (last : ∀ line, separator ∉ line → motive line)
    (more : ∀ line rest, separator ∉ line → motive rest → motive (line ++ separator :: rest))
    (text : List α) : motive text := by
  by_cases inside : separator ∈ text
  · obtain ⟨line, rest, same, plain⟩ := List.eq_append_cons_of_mem inside
    have shorter : rest.length < text.length := by
      rw [same, List.length_append, List.length_cons]
      omega
    rw [same]
    exact more line rest plain (lines_induction last more rest)
  · exact last text inside
termination_by text.length

end Separated

/-! ## Splitting a text -/

section Texts

variable {text rest : List Char} {char : Char}

theorem splitlines_ne_nil (char : Char) : splitlines (char :: rest) ≠ [] := by
  intro none
  rw [splitlines.eq_def] at none
  grind

theorem splitlines_single (inLine : ∀ char ∈ text, endsLine char = false) (solid : text ≠ []) :
    splitlines text = [text] := by
  induction text with
  | nil => exact absurd rfl solid
  | cons char text ih =>
      rw [splitlines_cons (inLine char List.mem_cons_self)]
      cases text with
      | nil => rw [splitlines]
      | cons next text =>
          rw [ih (fun other inside => inLine other (List.mem_cons_of_mem _ inside)) (by simp)]

/-- A return takes the newline after it along. -/
theorem splitlines_alone (ends : endsLine char = true)
    (alone : ∀ more, char = '\r' → rest ≠ '\n' :: more) :
    splitlines (char :: rest) = [] :: splitlines rest := by
  rw [splitlines.eq_def]
  grind

/-- A newline that is not taken along by a return. -/
theorem alone_of_other {tail : List Char}
    (other : ∀ more, char = '\r' → text = '\n' :: more → False)
    (free : ¬ (char = '\r' ∧ text = [])) (more : List Char) (isReturn : char = '\r') :
    text ++ tail ≠ '\n' :: more := by
  intro same
  cases text with
  | nil => exact free ⟨isReturn, rfl⟩
  | cons next text =>
      obtain rfl := (List.cons.inj same).1
      exact other text isReturn rfl

/-- A newline starts a line. -/
theorem splitlines_append (text rest : List Char) :
    splitlines (text ++ '\n' :: rest) = splitlines (text ++ ['\n']) ++ splitlines rest := by
  have longer {char : Char} {text : List Char} (inLine : ¬ endsLine char = true)
      (ih : splitlines (text ++ '\n' :: rest) = splitlines (text ++ ['\n']) ++ splitlines rest) :
      splitlines (char :: text ++ '\n' :: rest) =
        splitlines (char :: text ++ ['\n']) ++ splitlines rest := by
    rw [Bool.not_eq_true] at inLine
    rw [List.cons_append, List.cons_append, splitlines_cons inLine, splitlines_cons inLine, ih]
    cases ended : splitlines (text ++ ['\n']) with
    | nil => cases text <;> exact absurd ended (splitlines_ne_nil _)
    | cons line lines => rfl
  fun_induction splitlines text with
  | case1 => exact splitlines_end (by decide) (by decide)
  | case2 text ih => simpa [splitlines] using ih
  | case3 char text other ends ih =>
      by_cases taken : char = '\r' ∧ text = []
      · obtain ⟨rfl, rfl⟩ := taken
        simp [splitlines]
      · rw [List.cons_append, List.cons_append, splitlines_alone ends (alone_of_other other taken),
          splitlines_alone ends (alone_of_other other taken), ih, List.cons_append]
  | case4 char text other inLine none ih => exact longer inLine ih
  | case5 char text other inLine line lines split ih => exact longer inLine ih

/-- A newline at the end starts no line, or an empty one. -/
theorem splitlines_ended (text : List Char) :
    splitlines (text ++ ['\n']) = splitlines text ∨
      splitlines (text ++ ['\n']) = splitlines text ++ [[]] := by
  fun_induction splitlines text with
  | case1 => exact .inr rfl
  | case2 text ih => exact ih.imp (congrArg _) (congrArg _)
  | case3 char text other ends ih =>
      by_cases taken : char = '\r' ∧ text = []
      · obtain ⟨rfl, rfl⟩ := taken
        exact .inl (by simp [splitlines])
      · rw [List.cons_append, splitlines_alone ends (alone_of_other other taken)]
        exact ih.imp (congrArg _) (congrArg _)
  | case4 char text other inLine none ih =>
      rw [Bool.not_eq_true] at inLine
      rw [List.cons_append, splitlines_cons inLine]
      cases text with
      | nil => exact .inl rfl
      | cons next text => exact absurd none (splitlines_ne_nil next)
  | case5 char text other inLine line lines split ih =>
      rw [Bool.not_eq_true] at inLine
      rw [List.cons_append, splitlines_cons inLine]
      rw [split] at ih
      obtain same | same := ih
      · exact .inl (by rw [same])
      · exact .inr (by rw [same]; rfl)

theorem splitlines_solid (text rest : List Char) :
    (splitlines (text ++ '\n' :: rest)).filter (!·.isEmpty) =
      (splitlines text).filter (!·.isEmpty) ++ (splitlines rest).filter (!·.isEmpty) := by
  rw [splitlines_append, List.filter_append]
  obtain same | same := splitlines_ended text
  · rw [same]
  · rw [same, List.filter_append]
    simp

end Texts

/-! ## Bodies -/

theorem encoded_isEmpty (text : List Char) : (encoded text).isEmpty = text.isEmpty := by
  cases text with
  | nil => rfl
  | cons char text =>
      rw [encoded_eq, List.flatMap_cons]
      cases first : String.utf8EncodeChar char with
      | nil => exact absurd first (String.utf8EncodeChar_ne_nil)
      | cons byte bytes => rfl

/-- The solid lines that a body is read in. -/
def fragments (body : Bytes) : List Bytes := (textLines body).filter (!·.isEmpty)

theorem fragments_encoded (text : List Char) :
    fragments (encoded text) = ((splitlines text).filter (!·.isEmpty)).map encoded := by
  have empty : (fun line : Bytes => !line.isEmpty) ∘ encoded = fun line => !line.isEmpty := by
    funext text
    exact congrArg _ (encoded_isEmpty text)
  rw [fragments, textLines, characters_encoded, List.filter_map, empty]

/-- A body of texts is read line by line. -/
theorem fragments_body {body : Bytes}
    (texts : ∀ line ∈ solidLines newline body, ∃ text, line = encoded text) :
    fragments body = (solidLines newline body).flatMap fragments := by
  have whole : (∃ chars, body = encoded chars) ∧
      fragments body = (solidLines newline body).flatMap fragments := by
    -- A line is empty or one of the texts.
    have written {line : Bytes}
        (solid : ∀ text ∈ [line].filter (!·.isEmpty), ∃ chars, text = encoded chars) :
        ∃ chars, line = encoded chars ∧
          fragments line = ([line].filter (!·.isEmpty)).flatMap fragments := by
      cases line with
      | nil => exact ⟨[], rfl, rfl⟩
      | cons byte bytes =>
          obtain ⟨chars, same⟩ := solid (byte :: bytes) (by simp)
          exact ⟨chars, same, by simp⟩
    induction body using (lines_induction newline) with
    | last line plain =>
        rw [solidLines_last plain] at texts ⊢
        obtain ⟨chars, same, read⟩ := written texts
        exact ⟨⟨chars, same⟩, read⟩
    | more line rest plain ih =>
        rw [solidLines_more plain] at texts ⊢
        obtain ⟨first, rfl, here⟩ := written fun text inside =>
          texts text (List.mem_append_left _ inside)
        obtain ⟨⟨chars, rfl⟩, there⟩ := ih fun text inside =>
          texts text (List.mem_append_right _ inside)
        have ended : encoded first ++ newline :: encoded chars =
            encoded (first ++ ['\n'] ++ chars) := by
          rw [encoded_append, encoded_append, List.append_assoc]
          rfl
        refine ⟨⟨_, ended⟩, ?_⟩
        rw [ended, ← List.append_cons, fragments_encoded, splitlines_solid, List.map_append,
          ← fragments_encoded, ← fragments_encoded, List.flatMap_append, ← there, ← here]
  exact whole.2

/-! ## Documents -/

namespace Json

/-- A text without one of the characters that are not escaped and end a line. -/
def UnbrokenText (bytes : Bytes) : Prop :=
  ∃ text, bytes = encoded text ∧ ∀ char ∈ text, isSeparator char = false

mutual

/-- Every string in the value is such a text, and there are no other numbers than integers. -/
def Unbroken : Json → Prop
  | .float _ => False
  | .string value => UnbrokenText value
  | .array items => UnbrokenItems items
  | .object members => UnbrokenMembers members
  | _ => True

def UnbrokenItems : List Json → Prop
  | [] => True
  | item :: rest => Unbroken item ∧ UnbrokenItems rest

def UnbrokenMembers : List (Bytes × Json) → Prop
  | [] => True
  | (key, value) :: rest => UnbrokenText key ∧ Unbroken value ∧ UnbrokenMembers rest

end

/-- The characters of one line. -/
def IsLine (bytes : Bytes) : Prop :=
  ∃ text, bytes = encoded text ∧ ∀ char ∈ text, endsLine char = false

theorem IsLine.append {first second : Bytes} (early : IsLine first) (late : IsLine second) :
    IsLine (first ++ second) := by
  obtain ⟨first, rfl, plain⟩ := early
  obtain ⟨second, rfl, other⟩ := late
  refine ⟨first ++ second, (encoded_append _ _).symm, ?_⟩
  intro char inside
  exact (List.mem_append.mp inside).elim (plain char) (other char)

def isPrintable (byte : UInt8) : Bool := 32 ≤ byte && byte < 127

theorem ascii_code {byte : UInt8} (ascii : byte < 128) :
    (Char.ofNat byte.toNat).toNat = byte.toNat := by
  have small : byte.toNat < 128 := UInt8.lt_iff_toNat_lt.mp ascii
  unfold Char.ofNat
  rw [dif_pos (.inl (by omega))]
  rfl

theorem encoded_ascii {bytes : Bytes} (ascii : ∀ byte ∈ bytes, byte < 128) :
    encoded (bytes.map fun byte => Char.ofNat byte.toNat) = bytes := by
  have same : ∀ byte ∈ bytes, String.utf8EncodeChar (Char.ofNat byte.toNat) = [byte] := by
    intro byte inside
    have small : byte.toNat < 128 := UInt8.lt_iff_toNat_lt.mp (ascii byte inside)
    have valid := ascii_code (ascii byte inside)
    rw [encodeChar_ascii (by omega), valid, UInt8.ofNat_toNat]
  rw [encoded_eq, List.flatMap_map, List.flatMap_congr same, List.flatMap_singleton']

theorem printable_code {byte : UInt8} (printable : isPrintable byte = true) :
    32 ≤ byte.toNat ∧ byte.toNat < 127 ∧ byte < 128 := by
  simp only [isPrintable, Bool.and_eq_true, decide_eq_true_eq] at printable
  obtain ⟨lower, upper⟩ := printable
  rw [UInt8.le_iff_toNat_le] at lower
  rw [UInt8.lt_iff_toNat_lt] at upper ⊢
  have small : byte.toNat < 127 := upper
  exact ⟨lower, small, small.trans (by decide)⟩

theorem encoded_printable {bytes : Bytes} (printable : bytes.all isPrintable = true) :
    encoded (bytes.map fun byte => Char.ofNat byte.toNat) = bytes :=
  encoded_ascii fun byte inside =>
    (printable_code (List.all_eq_true.mp printable byte inside)).2.2

theorem isLine_printable {bytes : Bytes} (printable : bytes.all isPrintable = true) :
    IsLine bytes := by
  refine ⟨bytes.map fun byte => Char.ofNat byte.toNat, (encoded_printable printable).symm, ?_⟩
  intro char inside
  obtain ⟨byte, member, rfl⟩ := List.mem_map.mp inside
  obtain ⟨lower, upper, ascii⟩ := printable_code (List.all_eq_true.mp printable byte member)
  unfold endsLine
  rw [ascii_code ascii]
  simp
  omega

theorem IsLine.cons {byte : UInt8} {rest : Bytes} (printable : isPrintable byte = true)
    (line : IsLine rest) : IsLine (byte :: rest) := by
  have single : IsLine [byte] := isLine_printable (by simpa using printable)
  exact single.append line

theorem isLine_renderString {value : Bytes} (unbroken : UnbrokenText value) :
    IsLine (renderString value) := by
  obtain ⟨text, rfl, plain⟩ := unbroken
  have inner : IsLine ((encoded text).flatMap escape) :=
    ⟨escaped text, (encoded_escaped text).symm, escaped_inLine plain⟩
  exact .cons (by decide) (inner.append (isLine_printable (by decide)))

theorem isLine_decimal (value : Int) : IsLine (decimal value) := by
  have digits (value : Nat) : IsLine (decimalNat value) := by
    apply isLine_printable
    rw [List.all_eq_true]
    intro byte inside
    have digit := decimalNat_digits value byte inside
    simp only [isDigit, decide_eq_true_eq] at digit
    simp only [isPrintable, Bool.and_eq_true, decide_eq_true_eq]
    grind
  cases value with
  | ofNat value => exact digits value
  | negSucc value => exact .cons (by decide) (digits _)

theorem isLine_member {byte : UInt8} {key value rest : Bytes} (printable : isPrintable byte = true)
    (named : UnbrokenText key) (line : IsLine value) (more : IsLine rest) :
    IsLine (byte :: (renderString key ++ 58 :: (value ++ rest))) :=
  .cons printable
    ((isLine_renderString named).append (.cons (by decide) (line.append more)))

mutual

/-- A document of such texts is one line. -/
theorem isLine_render (value : Json) (unbroken : value.Unbroken) : IsLine value.render := by
  cases value with
  | null => exact isLine_printable (by decide)
  | bool value => cases value <;> exact isLine_printable (by decide)
  | integer value => exact isLine_decimal value
  | float literal => cases unbroken
  | string value => exact isLine_renderString unbroken
  | array items =>
      cases items with
      | nil => exact isLine_printable (by decide)
      | cons item rest =>
          exact .cons (by decide)
            ((isLine_render item unbroken.1).append (isLine_renderItems rest unbroken.2))
  | object members =>
      cases members with
      | nil => exact isLine_printable (by decide)
      | cons member rest =>
          obtain ⟨key, value⟩ := member
          exact isLine_member (by decide) unbroken.1 (isLine_render value unbroken.2.1)
            (isLine_renderMembers rest unbroken.2.2)

theorem isLine_renderItems (items : List Json) (unbroken : UnbrokenItems items) :
    IsLine (renderItems items) := by
  cases items with
  | nil => exact isLine_printable (by decide)
  | cons item rest =>
      exact .cons (by decide)
        ((isLine_render item unbroken.1).append (isLine_renderItems rest unbroken.2))

theorem isLine_renderMembers (members : List (Bytes × Json)) (unbroken : UnbrokenMembers members) :
    IsLine (renderMembers members) := by
  cases members with
  | nil => exact isLine_printable (by decide)
  | cons member rest =>
      obtain ⟨key, value⟩ := member
      exact isLine_member (by decide) unbroken.1 (isLine_render value unbroken.2.1)
        (isLine_renderMembers rest unbroken.2.2)

end

theorem validUtf8_encoded (text : List Char) : validUtf8 (encoded text) = true :=
  validUtf8_utf8 (String.ofList text)

mutual

theorem isText_of_unbroken (value : Json) (unbroken : value.Unbroken) : value.isText = true := by
  cases value with
  | null | bool value | integer value => rfl
  | float literal => rfl
  | string value =>
      obtain ⟨text, rfl, -⟩ := unbroken
      exact validUtf8_encoded text
  | array items => exact allText_of_unbroken items unbroken
  | object members => exact membersText_of_unbroken members unbroken

theorem allText_of_unbroken (items : List Json) (unbroken : UnbrokenItems items) :
    allText items = true := by
  cases items with
  | nil => rfl
  | cons item rest =>
      rw [allText, isText_of_unbroken item unbroken.1, allText_of_unbroken rest unbroken.2]
      rfl

theorem membersText_of_unbroken (members : List (Bytes × Json))
    (unbroken : UnbrokenMembers members) : membersText members = true := by
  cases members with
  | nil => rfl
  | cons member rest =>
      obtain ⟨key, value⟩ := member
      obtain ⟨named, plain, others⟩ := unbroken
      obtain ⟨text, rfl, -⟩ := named
      rw [membersText, validUtf8_encoded, isText_of_unbroken value plain,
        membersText_of_unbroken rest others]
      rfl

end

theorem unbrokenItems_iff {items : List Json} :
    UnbrokenItems items ↔ ∀ item ∈ items, item.Unbroken := by
  induction items with
  | nil => simp [UnbrokenItems]
  | cons item rest ih => simp [UnbrokenItems, ih]

theorem unbroken_insertMember {key : Bytes} {value : Json} {members : List (Bytes × Json)}
    (named : UnbrokenText key) (unbroken : value.Unbroken) (kept : UnbrokenMembers members) :
    UnbrokenMembers (insertMember key value members) := by
  induction members with
  | nil => exact ⟨named, unbroken, trivial⟩
  | cons first rest ih =>
      obtain ⟨other, first⟩ := first
      unfold insertMember
      split
      · exact ⟨named, unbroken, kept.2.2⟩
      · split
        · exact ⟨named, unbroken, kept⟩
        · exact ⟨kept.1, kept.2.1, ih kept.2.2⟩

theorem IsLine.fragments {line : Bytes} (isLine : IsLine line) (solid : line ≠ []) :
    fragments line = [line] := by
  obtain ⟨text, rfl, plain⟩ := isLine
  have some : text ≠ [] := by
    rintro rfl
    exact solid rfl
  rw [fragments_encoded, splitlines_single plain some]
  simp [some]

theorem IsLine.unbroken {bytes : Bytes} (line : IsLine bytes) : UnbrokenText bytes := by
  obtain ⟨text, rfl, plain⟩ := line
  refine ⟨text, rfl, ?_⟩
  intro char inside
  by_contra separator
  rw [Bool.not_eq_false] at separator
  have ends := (escapeChar_separator separator).2.1
  rw [plain char inside] at ends
  cases ends

/-- The names of the program are printable. -/
def plainName (name : String) : Bool := (utf8 name).all isPrintable

theorem unbroken_record {members : List (String × Json)}
    (unbroken : ∀ member ∈ members, plainName member.1 = true ∧ member.2.Unbroken) :
    (record members).Unbroken := by
  apply record_induction Unbroken
  · exact trivial
  · intro member inside built kept
    obtain ⟨plain, value⟩ := unbroken member inside
    exact unbroken_insertMember (isLine_printable plain).unbroken value kept

mutual

/-- Where there is no other number than integers, none is written with a newline. -/
theorem oneLine_of_canonical (value : Json) (canonical : value.Canonical) : value.OneLine := by
  cases value with
  | null | bool value | integer value | string value => exact trivial
  | float literal => cases canonical
  | array items => exact oneLineItems_of_canonical items canonical
  | object members => exact oneLineMembers_of_canonical members canonical.2

theorem oneLineItems_of_canonical (items : List Json) (canonical : CanonicalItems items) :
    OneLineItems items := by
  cases items with
  | nil => exact trivial
  | cons item rest =>
      exact ⟨oneLine_of_canonical item canonical.1, oneLineItems_of_canonical rest canonical.2⟩

theorem oneLineMembers_of_canonical (members : List (Bytes × Json))
    (canonical : CanonicalMembers members) : OneLineMembers members := by
  cases members with
  | nil => exact trivial
  | cons member rest =>
      obtain ⟨key, value⟩ := member
      exact ⟨oneLine_of_canonical value canonical.1,
        oneLineMembers_of_canonical rest canonical.2⟩

end

end Json

end JVLinkServer
