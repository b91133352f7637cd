import JVLinkServer.Client.DecodingFailures
import JVLinkServer.Client.StoredRows

namespace JVLinkServer.Client

open Json JVLinkServer.Records

/-! # Texts of code page 932

A character of the code page is of one byte or of two.  A field of a record is thus a text
with no more characters than the field has bytes.
-/

/-- One byte is a character of ASCII or no digit; of two, the first is above those of ASCII. -/
inductive Coded : Bytes → Char → Prop
  | single {byte : UInt8} {char : Char}
      (ascii : isPrintable byte = true → char = Char.ofNat byte.toNat)
      (other : isPrintable byte = false → isPythonDigit char = false) : Coded [byte] char
  | double {lead trail : UInt8} {char : Char} (above : 129 ≤ lead) : Coded [lead, trail] char

/-- What is known of the conversion. -/
structure CodePage932 (codePage : Bytes → Option Bytes) : Prop where
  converts : Converts codePage
  coded : ∀ bytes text, codePage bytes = some text → ∃ pieces : List (Bytes × Char),
    bytes = pieces.flatMap Prod.fst ∧ characters text = pieces.map Prod.snd ∧
      ∀ piece ∈ pieces, Coded piece.1 piece.2

theorem ascii_digits : ∀ code < 127, isPythonDigit (Char.ofNat code) = true →
    isDecimal (Char.ofNat code) = true := by
  decide +kernel

/-! ## Pieces -/

section Pieces

variable {pieces : List (Bytes × Char)} (coded : ∀ piece ∈ pieces, Coded piece.1 piece.2)
include coded

theorem pieces_length_le : pieces.length ≤ (pieces.flatMap Prod.fst).length := by
  induction pieces with
  | nil => exact Nat.le_refl 0
  | cons piece pieces ih =>
      obtain ⟨bytes, char⟩ := piece
      rw [List.forall_mem_cons] at coded
      have rest := ih coded.2
      rw [List.flatMap_cons, List.length_append, List.length_cons]
      have first := coded.1
      cases first <;> simp only [List.length_cons, List.length_nil] <;> omega

/-- As many characters as bytes: each is of one byte. -/
theorem pieces_decimal (all : (pieces.flatMap Prod.fst).length ≤ pieces.length) :
    ∀ char ∈ pieces.map Prod.snd, isPythonDigit char = true → isDecimal char = true := by
  induction pieces with
  | nil => simp
  | cons piece pieces ih =>
      obtain ⟨bytes, char⟩ := piece
      rw [List.forall_mem_cons] at coded
      have short := pieces_length_le coded.2
      rw [List.flatMap_cons, List.length_append, List.length_cons] at all
      rw [List.map_cons, List.forall_mem_cons]
      have first := coded.1
      cases first with
      | double above =>
          simp only [List.length_cons, List.length_nil] at all
          omega
      | @single byte _ ascii other =>
          simp only [List.length_cons, List.length_nil] at all
          refine ⟨?_, ih coded.2 (by omega)⟩
          intro digit
          cases printable : isPrintable byte with
          | false => exact absurd digit (by rw [other printable]; decide)
          | true =>
              simp only [isPrintable, Bool.and_eq_true, decide_eq_true_eq,
                UInt8.lt_iff_toNat_lt] at printable
              rw [ascii (by simpa [isPrintable, UInt8.lt_iff_toNat_lt] using printable)] at digit ⊢
              exact ascii_digits _ printable.2 digit

/-- Printable bytes are their own characters. -/
theorem pieces_printable (printable : (pieces.flatMap Prod.fst).all isPrintable = true) :
    pieces.map Prod.snd = (pieces.flatMap Prod.fst).map fun byte => Char.ofNat byte.toNat := by
  induction pieces with
  | nil => rfl
  | cons piece pieces ih =>
      obtain ⟨bytes, char⟩ := piece
      rw [List.forall_mem_cons] at coded
      rw [List.flatMap_cons, List.all_append, Bool.and_eq_true] at printable
      rw [List.map_cons, List.flatMap_cons, List.map_append, ih coded.2 printable.2]
      have first := coded.1
      cases first with
      | @double lead trail _ above =>
          simp only [List.all_cons, isPrintable, Bool.and_eq_true, decide_eq_true_eq,
            UInt8.lt_iff_toNat_lt, UInt8.le_iff_toNat_le] at printable above
          have below : lead.toNat < 127 := printable.1.1.2
          have above : 129 ≤ lead.toNat := above
          omega
      | single ascii other =>
          have own := ascii (by simpa using printable.1)
          rw [own]
          rfl

end Pieces

/-! ## Fields -/

theorem toText_string (python : PythonStr) (bytes : Bytes) :
    toText python (some (.string bytes)) =
      if pythonStrip (characters bytes) = [] then none
      else some (pythonStrip (characters bytes)) := by
  unfold toText toStr
  dsimp only
  cases pythonStrip (characters bytes) with
  | nil => rfl
  | cons char rest =>
      simp only [Option.map_some, characters_utf8, String.toList_ofList]
      rfl

theorem toText_string_some {python : PythonStr} {bytes : Bytes} {text : List Char}
    (is : toText python (some (.string bytes)) = some text) :
    text = pythonStrip (characters bytes) := by
  rw [toText_string] at is
  split at is
  · cases is
  · exact (Option.some.inj is).symm

theorem length_extractField (rawData : Bytes) (start size : Nat) :
    (extractField rawData start size).length ≤ size := by
  unfold extractField
  split
  · exact Nat.zero_le _
  · exact (length_slice (by omega)).le

section Fields

variable {codePage : Bytes → Option Bytes} (page : CodePage932 codePage) (rawData : Bytes)
  (start size : Nat)
include page

/-- The characters of a field, each with its bytes. -/
theorem extract_coded : ∃ pieces : List (Bytes × Char), (∀ piece ∈ pieces, Coded piece.1 piece.2) ∧
    (extractField rawData start size).takeWhile (· != 0) = pieces.flatMap Prod.fst ∧
    characters (extractAndConvert codePage rawData start size) = pieces.map Prod.snd := by
  unfold extractAndConvert convertEncoding
  cases empty : (extractField rawData start size).isEmpty with
  | true =>
      rw [if_pos rfl, List.isEmpty_iff.mp empty]
      exact ⟨[], by simp, rfl, characters_utf8 ""⟩
  | false =>
      obtain ⟨text, converted, -⟩ :=
        page.converts ((extractField rawData start size).takeWhile (· != 0))
      obtain ⟨pieces, same, chars, coded⟩ := page.coded _ _ converted
      rw [converted]
      exact ⟨pieces, coded, same, chars⟩

theorem length_characters_extract :
    (characters (extractAndConvert codePage rawData start size)).length ≤ size := by
  obtain ⟨pieces, coded, same, chars⟩ := extract_coded page rawData start size
  rw [chars, List.length_map]
  calc pieces.length
    _ ≤ (pieces.flatMap Prod.fst).length := pieces_length_le coded
    _ = ((extractField rawData start size).takeWhile (· != 0)).length := by rw [same]
    _ ≤ (extractField rawData start size).length := (List.takeWhile_prefix _).length_le
    _ ≤ size := length_extractField rawData start size

/-- A field that is digits all over has decimal ones only. -/
theorem not_misread (python : PythonStr) {count : Nat} (fits : size ≤ count) :
    ¬ Misread count
      (toText python (some (.string (extractAndConvert codePage rawData start size)))) := by
  rintro ⟨text, is, digits, broken⟩
  obtain ⟨length, each⟩ := areDigits_iff.mp digits
  obtain ⟨pieces, coded, same, chars⟩ := extract_coded page rawData start size
  have stripped := toText_string_some is
  have part := pythonStrip_sublist (characters (extractAndConvert codePage rawData start size))
  rw [← stripped] at part
  have short := length_characters_extract page rawData start size
  have whole := part.eq_of_length (by have := part.length_le; omega)
  rw [chars] at whole short
  have full : (pieces.flatMap Prod.fst).length ≤ pieces.length := by
    have taken := (List.takeWhile_prefix (p := (· != 0))
      (l := extractField rawData start size)).length_le
    have field := length_extractField rawData start size
    have all := congrArg List.length whole
    rw [List.length_map] at all
    rw [← same]
    omega
  have decimal := pieces_decimal coded full
  rw [← whole] at decimal
  rw [List.all_eq_false] at broken
  obtain ⟨char, inside, notDecimal⟩ := broken
  exact notDecimal (decimal char inside (each char inside))

end Fields

/-! ## Code pages of nothing but ASCII -/

theorem ascii_no_separator : ∀ code < 128, isSeparator (Char.ofNat code) = false := by
  decide +kernel

/-- A code page that converts byte by byte and keeps the printable ones. -/
theorem mapped_coded {convert : UInt8 → UInt8} (ascii : ∀ byte, convert byte < 128)
    (keeps : ∀ byte, isPrintable byte = true → convert byte = byte)
    (other : ∀ byte, isPrintable byte = false →
      isPythonDigit (Char.ofNat (convert byte).toNat) = false) :
    CodePage932 fun text => some (text.map convert) := by
  have small (text : Bytes) : ∀ byte ∈ text.map convert, byte < 128 := by
    intro byte inside
    obtain ⟨byte, -, rfl⟩ := List.mem_map.mp inside
    exact ascii byte
  constructor
  · intro text
    refine ⟨_, rfl, _, (encoded_ascii (small text)).symm, ?_⟩
    intro char inside
    obtain ⟨byte, member, rfl⟩ := List.mem_map.mp inside
    exact ascii_no_separator _ (UInt8.lt_iff_toNat_lt.mp (small text byte member))
  · intro bytes text same
    obtain rfl := Option.some.inj same
    rw [← encoded_ascii (small bytes), characters_encoded]
    refine ⟨bytes.map fun byte => ([byte], Char.ofNat (convert byte).toNat), ?_, ?_, ?_⟩
    · simp [List.flatMap_map]
    · simp
    · intro piece inside
      obtain ⟨byte, -, rfl⟩ := List.mem_map.mp inside
      exact .single (fun printable => by rw [keeps byte printable]) (other byte)

theorem printablePage_coded : CodePage932 printablePage :=
  mapped_coded (by decide +kernel) (fun byte printable => if_pos printable) (by decide +kernel)

end JVLinkServer.Client
