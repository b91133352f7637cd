import JVLinkServer.Json

namespace JVLinkServer.Json

/-! # Reading back what was written

The parser inverts the printer on every value whose strings are text.  Two things
are lost in print and excluded: the order of members, which is that of their keys,
and the form of a number that is not an integer.
-/

/-- The keys are in strictly increasing order. -/
def sortedKeys (members : List (Bytes × Json)) : Prop :=
  members.Pairwise fun first second => first.1 < second.1

mutual

def Canonical : Json → Prop
  | .float _ => False
  | .array items => CanonicalItems items
  | .object members => sortedKeys members ∧ CanonicalMembers members
  | _ => True

def CanonicalItems : List Json → Prop
  | [] => True
  | item :: rest => Canonical item ∧ CanonicalItems rest

def CanonicalMembers : List (Bytes × Json) → Prop
  | [] => True
  | (_, value) :: rest => Canonical value ∧ CanonicalMembers rest

end

/-! ## Strings -/

theorem shortEscape_unescape {byte letter : UInt8} (escaped : shortEscape byte = some letter) :
    letter ≠ 117 ∧ unescape letter = some byte := by
  unfold shortEscape at escaped
  grind [unescape]

theorem not_shortEscape {byte : UInt8} (plain : shortEscape byte = none) :
    byte ≠ 34 ∧ byte ≠ 92 := by
  unfold shortEscape at plain
  grind

theorem hexDigit_isHex : ∀ value < 32,
    fromHex? 4 [48, 48, hexDigit (.ofNat value / 16), hexDigit (.ofNat value % 16)] =
      some value := by
  decide

theorem encodeCode_of_lt : ∀ code < 32, encodeCode code = [.ofNat code] := by
  decide

theorem scanString_escape (byte : UInt8) (rest : Bytes) :
    scanString (escape byte ++ rest) =
      (scanString rest).map fun scanned => (byte :: scanned.1, scanned.2) := by
  unfold escape
  cases short : shortEscape byte with
  | some letter =>
      obtain ⟨notUnicode, read⟩ := shortEscape_unescape short
      change scanString (92 :: letter :: rest) = _
      rw [scanString.eq_def (92 :: _)]
      simp [notUnicode, read]
  | none =>
      obtain ⟨notQuote, notSlash⟩ := not_shortEscape short
      by_cases control : byte < 32
      · have small : byte.toNat < 32 := control
        have digits := hexDigit_isHex byte.toNat small
        have encoded := encodeCode_of_lt byte.toNat small
        rw [UInt8.ofNat_toNat] at digits encoded
        have plane : byte.toNat < 0xD800 := by omega
        simp [control, scanString, digits, encoded, plane]
      · simp only [control, ↓reduceIte, List.cons_append, List.nil_append]
        rw [scanString.eq_def (byte :: _)]
        simp [control, notQuote, notSlash]

theorem scanString_escapes (value rest : Bytes) :
    scanString (value.flatMap escape ++ 34 :: rest) = some (value, rest) := by
  induction value with
  | nil =>
      rw [scanString.eq_def]
      simp
  | cons byte value ih =>
      rw [List.flatMap_cons, List.append_assoc, scanString_escape, ih]
      rfl

theorem parseString_escapes (value : Bytes) (text : validUtf8 value = true) (rest : Bytes) :
    parseString (value.flatMap escape ++ 34 :: rest) = some (value, rest) := by
  simp [parseString, scanString_escapes, text]

/-! ## Numbers -/

/-- What may follow a number: neither a digit nor a fraction or exponent. -/
def endsNumber (rest : Bytes) : Prop :=
  ∀ byte, rest.head? = some byte → isDigit byte = false ∧ byte ≠ 46 ∧ byte ≠ 101 ∧ byte ≠ 69

theorem digitByte {digit : Char} (isDigit : digit.isDigit = true) :
    JVLinkServer.isDigit (UInt8.ofNat digit.toNat) = true ∧
      Char.ofNat (UInt8.ofNat digit.toNat).toNat = digit := by
  have bounds : 48 ≤ digit.toNat ∧ digit.toNat ≤ 57 := by
    simpa [Char.isDigit, UInt32.le_iff_toNat_le] using isDigit
  have byte : (UInt8.ofNat digit.toNat).toNat = digit.toNat := by
    rw [UInt8.toNat_ofNat']
    omega
  refine ⟨?_, by rw [byte, Char.ofNat_toNat]⟩
  simp [JVLinkServer.isDigit, UInt8.le_iff_toNat_le, byte, bounds]

theorem decimalNat_digits (value : Nat) : ∀ byte ∈ decimalNat value, isDigit byte = true := by
  intro byte member
  obtain ⟨digit, inside, rfl⟩ := List.mem_map.mp member
  exact (digitByte (Nat.isDigit_of_mem_toDigits (by decide) (by decide) inside)).1

theorem ofDecimal_decimalNat (value : Nat) : ofDecimal (decimalNat value) = value := by
  have digits : (decimalNat value).map (fun digit => Char.ofNat digit.toNat) =
      Nat.toDigits 10 value := by
    rw [decimalNat, List.map_map]
    refine (List.map_congr_left fun digit inside => ?_).trans (List.map_id _)
    exact (digitByte (Nat.isDigit_of_mem_toDigits (by decide) (by decide) inside)).2
  rw [ofDecimal, digits, Nat.ofDigitChars_ten_toDigits]

theorem toDigits_head (value : Nat) (positive : 0 < value) :
    (Nat.toDigits 10 value).head? ≠ some '0' := by
  induction value using Nat.strongRecOn with
  | _ value ih =>
      by_cases small : value < 10
      · have nonzero : value ≠ 0 := by omega
        simp [Nat.toDigits_of_lt_base small, nonzero]
      · rw [Nat.toDigits_of_base_le (by decide) (by omega), List.head?_append]
        have inner := ih (value / 10) (by omega) (by omega)
        cases digits : Nat.toDigits 10 (value / 10) with
        | nil => exact absurd digits Nat.toDigits_ne_nil
        | cons first rest =>
            rw [digits] at inner
            simpa using inner

/-- A decimal has no leading zero. -/
theorem decimalNat_head (value : Nat) :
    decimalNat value ≠ [] ∧
      ((decimalNat value).head? = some 48 → (decimalNat value).length = 1) := by
  refine ⟨by simp [decimalNat, Nat.toDigits_ne_nil], fun zero => ?_⟩
  by_cases positive : 0 < value
  · exfalso
    cases digits : Nat.toDigits 10 value with
    | nil => exact Nat.toDigits_ne_nil digits
    | cons first rest =>
        have isDigit : first.isDigit := Nat.isDigit_of_mem_toDigits (b := 10) (n := value)
          (by decide) (by decide) (by simp [digits])
        have byte : UInt8.ofNat first.toNat = 48 := by simpa [decimalNat, digits] using zero
        have same := (digitByte isDigit).2
        rw [byte] at same
        exact toDigits_head value positive (by rw [digits, ← same]; rfl)
  · obtain rfl : value = 0 := by omega
    rfl

theorem takeWhile_digits {digits rest : Bytes} (allDigits : ∀ byte ∈ digits, isDigit byte = true)
    (ends : endsNumber rest) : (digits ++ rest).takeWhile isDigit = digits := by
  rw [List.takeWhile_append_of_pos allDigits]
  cases rest with
  | nil => simp
  | cons byte rest => simp [(ends byte rfl).1]

theorem scanFraction_none {rest : Bytes} (ends : endsNumber rest) :
    scanFraction rest = some ([], rest) := by
  cases rest with
  | nil => rfl
  | cons byte rest =>
      obtain ⟨-, notDot, notLower, notUpper⟩ := ends byte rfl
      simp [scanFraction, notDot, notLower, notUpper]

theorem parseUnsigned_decimalNat (negative : Bool) (value : Nat) {rest : Bytes}
    (ends : endsNumber rest) :
    parseUnsigned negative (decimalNat value ++ rest) =
      some (.integer (if negative then -(value : Int) else value), rest) := by
  obtain ⟨nonempty, leading⟩ := decimalNat_head value
  have wellFormed : ¬ ((decimalNat value).isEmpty = true ∨
      ((decimalNat value).head? = some 48 ∧ 1 < (decimalNat value).length)) := by
    rintro (empty | ⟨zero, long⟩)
    · exact nonempty (List.isEmpty_iff.mp empty)
    · have := leading zero
      omega
  rw [parseUnsigned, takeWhile_digits (decimalNat_digits value) ends, if_neg wellFormed,
    List.drop_left, scanFraction_none ends]
  simp only [ofDecimal_decimalNat]

theorem parseNumber_decimal (value : Int) {rest : Bytes} (ends : endsNumber rest) :
    parseNumber (decimal value ++ rest) = some (.integer value, rest) := by
  cases value with
  | ofNat value =>
      have parsed := parseUnsigned_decimalNat false value ends
      change parseNumber (decimalNat value ++ rest) = _
      cases digits : decimalNat value with
      | nil => exact absurd digits (decimalNat_head value).1
      | cons first others =>
          have isDigit := decimalNat_digits value first (by simp [digits])
          have unsigned : first ≠ 45 := by
            rintro rfl
            contradiction
          rw [digits] at parsed
          simpa [parseNumber, unsigned] using parsed
  | negSucc value =>
      change parseNumber (45 :: (decimalNat (value + 1) ++ rest)) = _
      simpa [parseNumber, Int.negSucc_eq] using parseUnsigned_decimalNat true (value + 1) ends

/-! ## Objects -/

theorem insertMember_last {key : Bytes} {value : Json} {members : List (Bytes × Json)}
    (last : ∀ member ∈ members, member.1 < key) :
    insertMember key value members = members ++ [(key, value)] := by
  induction members with
  | nil => rfl
  | cons member members ih =>
      obtain ⟨other, kept⟩ := member
      have before : other < key := last (other, kept) (by simp)
      have different : key ≠ other := fun same => List.lt_irrefl other (same ▸ before)
      have notAfter : ¬ key < other := fun after => List.lt_irrefl _ (List.lt_trans after before)
      rw [insertMember, if_neg different, if_neg notAfter,
        ih fun member inside => last member (by simp [inside])]
      rfl

theorem foldl_insertMember (built : List (Bytes × Json)) {members : List (Bytes × Json)}
    (sorted : sortedKeys (built ++ members)) :
    members.foldl (fun built member => insertMember member.1 member.2 built) built =
      built ++ members := by
  induction members generalizing built with
  | nil => simp
  | cons member members ih =>
      have last : ∀ earlier ∈ built, earlier.1 < member.1 := fun earlier inside =>
        (List.pairwise_append.mp sorted).2.2 earlier inside member (by simp)
      rw [List.foldl_cons, insertMember_last last, ih _ (by simpa using sorted)]
      simp

theorem ofMembers_sorted {members : List (Bytes × Json)} (sorted : sortedKeys members) :
    ofMembers members = .object members := by
  rw [ofMembers, foldl_insertMember [] sorted]
  rfl

/-! ## Values -/

theorem expect_self (byte : UInt8) (rest : Bytes) : expect [byte] (byte :: rest) = some rest := by
  simp [expect]

theorem expect_other {byte first : UInt8} (different : byte ≠ first) (rest : Bytes) :
    expect [byte] (first :: rest) = none := by
  simp [expect, different]

theorem skipBlanks_cons {first : UInt8} (solid : isBlank first = false) (rest : Bytes) :
    skipBlanks (first :: rest) = first :: rest := by
  simp [skipBlanks, solid]

theorem digit_solid {byte : UInt8} (digit : isDigit byte = true) :
    isBlank byte = false ∧ byte ∉ [34, 91, 123, 93, 110, 116, 102] := by
  have bounds : 48 ≤ byte.toNat ∧ byte.toNat ≤ 57 := by
    simpa [isDigit, UInt8.le_iff_toNat_le] using digit
  have different {other : UInt8} (outside : other.toNat < 48 ∨ 57 < other.toNat) :
      byte ≠ other := by
    rintro rfl
    omega
  simp [isBlank, different]

/-- A decimal starts like no other value. -/
theorem decimal_cons (value : Int) :
    ∃ first others, decimal value = first :: others ∧ isBlank first = false ∧
      first ∉ [34, 91, 123, 93, 110, 116, 102] := by
  cases value with
  | ofNat value =>
      cases digits : decimalNat value with
      | nil => exact absurd digits (decimalNat_head value).1
      | cons first others =>
          exact ⟨first, others, digits,
            digit_solid (decimalNat_digits value first (by simp [digits]))⟩
  | negSucc value => exact ⟨45, _, rfl, rfl, by decide⟩

theorem render_cons (value : Json) (canonical : value.Canonical) :
    ∃ first others, value.render = first :: others ∧ isBlank first = false ∧ first ≠ 93 := by
  cases value with
  | null => exact ⟨110, _, rfl, rfl, by decide⟩
  | bool value => cases value <;> exact ⟨_, _, rfl, rfl, by decide⟩
  | integer value =>
      obtain ⟨first, others, rendered, solid, different⟩ := decimal_cons value
      exact ⟨first, others, rendered, solid, by simp_all⟩
  | float literal => cases canonical
  | string value => exact ⟨34, _, rfl, rfl, by decide⟩
  | array items => cases items <;> exact ⟨91, _, rfl, rfl, by decide⟩
  | object members => cases members <;> exact ⟨123, _, rfl, rfl, by decide⟩

theorem endsNumber_cons {first : UInt8} (rest : Bytes)
    (ends : isDigit first = false ∧ first ≠ 46 ∧ first ≠ 101 ∧ first ≠ 69) :
    endsNumber (first :: rest) := by
  rintro byte ⟨⟩
  exact ends

theorem endsNumber_renderItems (items : List Json) (rest : Bytes) :
    endsNumber (renderItems items ++ rest) := by
  cases items <;> exact endsNumber_cons _ (by decide)

theorem endsNumber_renderMembers (members : List (Bytes × Json)) (rest : Bytes) :
    endsNumber (renderMembers members ++ rest) := by
  cases members with
  | nil => exact endsNumber_cons _ (by decide)
  | cons member members =>
      obtain ⟨key, value⟩ := member
      exact endsNumber_cons _ (by decide)

/-- The parser with so much fuel reads every text that is not longer. -/
structure Reads (fuel : Nat) : Prop where
  value : ∀ (value : Json), value.Canonical → value.isText = true → value.render.length ≤ fuel →
    ∀ rest, endsNumber rest → parseValue fuel (value.render ++ rest) = some (value, rest)
  items : ∀ (item : Json) (items : List Json), CanonicalItems (item :: items) →
    allText (item :: items) = true → (item.render ++ renderItems items).length ≤ fuel →
    ∀ rest, parseItems fuel (item.render ++ (renderItems items ++ rest)) =
      some (item :: items, rest)
  members : ∀ (key : Bytes) (value : Json) (members : List (Bytes × Json)),
    CanonicalMembers ((key, value) :: members) → membersText ((key, value) :: members) = true →
    (renderString key ++ 58 :: (value.render ++ renderMembers members)).length ≤ fuel →
    ∀ rest, parseMembers fuel
        (renderString key ++ 58 :: (value.render ++ (renderMembers members ++ rest))) =
      some ((key, value) :: members, rest)

theorem Reads.succ_value {fuel : Nat} (reads : Reads fuel) {value : Json}
    (canonical : value.Canonical) (text : value.isText = true)
    (enough : value.render.length ≤ fuel + 1) {rest : Bytes} (ends : endsNumber rest) :
    parseValue (fuel + 1) (value.render ++ rest) = some (value, rest) := by
  cases value with
  | null => rfl
  | bool value => cases value <;> rfl
  | integer value =>
      obtain ⟨first, others, rendered, solid, different⟩ := decimal_cons value
      have parsed := parseNumber_decimal value ends
      simp only [List.mem_cons, List.not_mem_nil, or_false, not_or] at different
      obtain ⟨quote, bracket, brace, -, nullMark, trueMark, falseMark⟩ := different
      rw [rendered] at parsed
      simp only [render, rendered, List.cons_append] at parsed ⊢
      simp [parseValue, skipBlanks_cons solid, quote, bracket, brace, nullMark, trueMark,
        falseMark, parsed]
  | float literal => cases canonical
  | string value =>
      have parsed := parseString_escapes value (by simpa [isText] using text) rest
      simp [render, renderString, parseValue, skipBlanks_cons, isBlank, parsed]
  | array items =>
      cases items with
      | nil => rfl
      | cons item items =>
          have parsed := reads.items item items (by simpa [Canonical] using canonical)
            (by simpa [isText] using text) (by simpa [render] using enough) rest
          obtain ⟨first, others, rendered, solid, notClosing⟩ := render_cons
            item (by simp [Canonical, CanonicalItems] at canonical; exact canonical.1)
          have opened : skipBlanks (item.render ++ (renderItems items ++ rest)) =
              item.render ++ (renderItems items ++ rest) := by
            rw [rendered]
            exact skipBlanks_cons solid _
          have notEmpty : expect [93] (item.render ++ (renderItems items ++ rest)) = none := by
            rw [rendered]
            exact expect_other (Ne.symm notClosing) _
          simp only [render, List.cons_append, List.append_assoc, parseValue]
          rw [skipBlanks_cons (by decide)]
          simp [opened, notEmpty, parsed]
  | object members =>
      cases members with
      | nil => rfl
      | cons member members =>
          obtain ⟨key, value⟩ := member
          obtain ⟨sorted, canonical⟩ := canonical
          have parsed := reads.members key value members canonical
            (by simpa [isText] using text) (by simpa [render] using enough) rest
          have opened (tail : Bytes) :
              skipBlanks (renderString key ++ tail) = renderString key ++ tail :=
            skipBlanks_cons (by decide) _
          have notEmpty (tail : Bytes) : expect [125] (renderString key ++ tail) = none :=
            expect_other (by decide) _
          simp only [render, List.cons_append, List.append_assoc, parseValue]
          rw [skipBlanks_cons (by decide)]
          simp [opened, notEmpty, parsed, ofMembers_sorted sorted]

theorem Reads.succ_items {fuel : Nat} (reads : Reads fuel) {item : Json} {items : List Json}
    (canonical : CanonicalItems (item :: items)) (text : allText (item :: items) = true)
    (enough : (item.render ++ renderItems items).length ≤ fuel + 1) (rest : Bytes) :
    parseItems (fuel + 1) (item.render ++ (renderItems items ++ rest)) =
      some (item :: items, rest) := by
  obtain ⟨canonicalItem, canonicalRest⟩ := canonical
  simp only [allText, Bool.and_eq_true] at text
  rw [List.length_append] at enough
  have closing : 0 < (renderItems items).length := by
    cases items <;> simp [renderItems]
  have parsed := reads.value item canonicalItem text.1 (by omega) (renderItems items ++ rest)
    (endsNumber_renderItems items rest)
  cases items with
  | nil =>
      simp only [renderItems, List.cons_append, List.nil_append] at parsed ⊢
      simp [parseItems, parsed, skipBlanks_cons, isBlank, expect_self]
  | cons next items =>
      have parsedRest := reads.items next items canonicalRest (by simpa [allText] using text.2)
        (by simp [renderItems] at enough ⊢; omega) rest
      simp only [renderItems, List.cons_append, List.append_assoc] at parsed ⊢
      simp [parseItems, parsed, skipBlanks_cons, isBlank, expect_self, expect_other, parsedRest]

theorem Reads.succ_members {fuel : Nat} (reads : Reads fuel) {key : Bytes} {value : Json}
    {members : List (Bytes × Json)} (canonical : CanonicalMembers ((key, value) :: members))
    (text : membersText ((key, value) :: members) = true)
    (enough : (renderString key ++ 58 :: (value.render ++ renderMembers members)).length ≤ fuel + 1)
    (rest : Bytes) :
    parseMembers (fuel + 1)
        (renderString key ++ 58 :: (value.render ++ (renderMembers members ++ rest))) =
      some ((key, value) :: members, rest) := by
  obtain ⟨canonicalValue, canonicalRest⟩ := canonical
  simp only [membersText, Bool.and_eq_true] at text
  simp only [List.length_append, List.length_cons] at enough
  have closing : 0 < (renderMembers members).length := by
    cases members <;> simp [renderMembers]
  have parsedKey (tail : Bytes) := parseString_escapes key text.1.1 tail
  have parsed := reads.value value canonicalValue text.1.2 (by omega)
    (renderMembers members ++ rest) (endsNumber_renderMembers members rest)
  cases members with
  | nil =>
      simp only [renderMembers, List.cons_append, List.nil_append] at parsed ⊢
      simp [parseMembers, renderString, parsedKey, parsed, skipBlanks_cons, isBlank, expect_self]
  | cons next members =>
      obtain ⟨nextKey, nextValue⟩ := next
      have parsedRest := reads.members nextKey nextValue members canonicalRest
        (by simpa [membersText] using text.2) (by simp [renderMembers] at enough ⊢; omega) rest
      simp only [renderMembers, renderString, List.cons_append, List.append_assoc,
        List.nil_append] at parsed parsedRest ⊢
      simp [parseMembers, parsedKey, parsed, skipBlanks_cons, isBlank, expect_self, expect_other,
        parsedRest]

theorem reads (fuel : Nat) : Reads fuel := by
  induction fuel with
  | zero =>
      refine ⟨fun value canonical _ enough => ?_, fun item items _ _ enough => ?_,
        fun key value members _ _ enough => ?_⟩
      · obtain ⟨first, others, rendered, -⟩ := render_cons value canonical
        simp [rendered] at enough
      · cases items <;> simp [renderItems] at enough
      · simp at enough
  | succ fuel ih =>
      exact ⟨fun _ canonical text enough _ ends => ih.succ_value canonical text enough ends,
        fun _ _ canonical text enough rest => ih.succ_items canonical text enough rest,
        fun _ _ _ canonical text enough rest => ih.succ_members canonical text enough rest⟩

/-- A document is read back as the value it was written from. -/
theorem parse_dump {value : Json} {document : Bytes} (canonical : value.Canonical)
    (dumped : value.dump = .ok document) : parse document = some value := by
  unfold dump at dumped
  split at dumped
  next text =>
    cases dumped
    have parsed := (reads (value.render.length + 1)).value value canonical text (by omega) []
      (by simp [endsNumber])
    rw [List.append_nil] at parsed
    simp [parse, parsed, skipBlanks]
  next => contradiction

/-! ## Written-out objects -/

theorem membersText_insertMember {key : Bytes} {value : Json} {members : List (Bytes × Json)}
    (validKey : validUtf8 key = true) (text : value.isText = true)
    (texts : membersText members = true) :
    membersText (insertMember key value members) = true := by
  induction members with
  | nil => simp [insertMember, membersText, validKey, text]
  | cons member members ih =>
      obtain ⟨other, kept⟩ := member
      simp only [membersText, Bool.and_eq_true] at texts
      unfold insertMember
      split
      · simp [membersText, validKey, text, texts.2]
      · split
        · simp [membersText, validKey, text, texts]
        · simp [membersText, texts.1, ih texts.2]

/-- What holds of the empty object and is kept by each assignment. -/
theorem record_induction (holds : Json → Prop) {members : List (String × Json)}
    (empty : holds (.object []))
    (insert : ∀ member ∈ members, ∀ built, holds (.object built) →
      holds (.object (insertMember (utf8 member.1) member.2 built))) :
    holds (record members) := by
  have built : ∀ (rest : List (String × Json)) (before : List (Bytes × Json)),
      (∀ member ∈ rest, ∀ built, holds (.object built) →
        holds (.object (insertMember (utf8 member.1) member.2 built))) →
      holds (.object before) →
      holds (.object ((rest.map fun member => (utf8 member.1, member.2)).foldl
        (fun built member => insertMember member.1 member.2 built) before)) := by
    intro rest
    induction rest with
    | nil => exact fun before _ kept => kept
    | cons member rest ih =>
        intro before insert kept
        exact ih _ (fun other inside => insert other (List.mem_cons_of_mem _ inside))
          (insert member List.mem_cons_self before kept)
  exact built members [] insert empty

/-- An object is text when its members are. -/
theorem isText_record {members : List (String × Json)}
    (texts : ∀ member ∈ members, member.2.isText = true) : (record members).isText = true := by
  apply record_induction (fun value => value.isText = true)
  · rfl
  · intro member inside built text
    exact membersText_insertMember (validUtf8_utf8 member.1) (texts member inside) text

/-- A member of a text is a text. -/
theorem isText_of_member? {key : String} {value member : Json} (text : value.isText = true)
    (found : value.member? key = some member) : member.isText = true := by
  cases value with
  | object members =>
      change membersText members = true at text
      change members.lookup (utf8 key) = some member at found
      induction members with
      | nil => cases found
      | cons first rest ih =>
          obtain ⟨name, value⟩ := first
          simp only [membersText, Bool.and_eq_true] at text
          rw [List.lookup_cons] at found
          split at found
          · cases found
            exact text.1.2
          · exact ih text.2 found
  | null | bool | integer | float | string | array => cases found

theorem mem_insertMember {key : Bytes} {value : Json} {members : List (Bytes × Json)}
    {member : Bytes × Json} (inside : member ∈ insertMember key value members) :
    member = (key, value) ∨ member ∈ members := by
  induction members with
  | nil => exact .inl (List.mem_singleton.mp inside)
  | cons first rest ih =>
      unfold insertMember at inside
      split at inside
      · cases inside with
        | head => exact .inl rfl
        | tail _ inside => exact .inr (List.mem_cons_of_mem _ inside)
      · split at inside
        · cases inside with
          | head => exact .inl rfl
          | tail _ inside => exact .inr inside
        · cases inside with
          | head => exact .inr List.mem_cons_self
          | tail _ inside => exact (ih inside).imp_right (List.mem_cons_of_mem _)

theorem canonical_insertMember {key : Bytes} {value : Json} {members : List (Bytes × Json)}
    (canonical : value.Canonical) (kept : (Json.object members).Canonical) :
    (Json.object (insertMember key value members)).Canonical := by
  induction members with
  | nil => exact ⟨List.pairwise_singleton _ _, canonical, trivial⟩
  | cons first members ih =>
      obtain ⟨sorted, canonicalFirst, canonicalRest⟩ := kept
      obtain ⟨least, sortedRest⟩ := List.pairwise_cons.mp sorted
      unfold insertMember
      split
      · rename_i same
        exact ⟨List.pairwise_cons.mpr ⟨same ▸ least, sortedRest⟩, canonical, canonicalRest⟩
      · rename_i different
        split
        · rename_i before
          have all : ∀ member ∈ first :: members, key < member.1 := by
            intro member inside
            cases inside with
            | head => exact before
            | tail _ inside => exact List.lt_trans before (least member inside)
          exact ⟨List.pairwise_cons.mpr ⟨all, sorted⟩, canonical, canonicalFirst, canonicalRest⟩
        · rename_i notBefore
          obtain ⟨sortedInserted, canonicalInserted⟩ := ih ⟨sortedRest, canonicalRest⟩
          have all : ∀ member ∈ insertMember key value members, first.1 < member.1 := by
            intro member inside
            cases mem_insertMember inside with
            | inl same =>
                rw [same]
                exact Std.lt_of_le_of_ne (List.not_lt.mp notBefore) (Ne.symm different)
            | inr inside => exact least member inside
          exact ⟨List.pairwise_cons.mpr ⟨all, sortedInserted⟩, canonicalFirst, canonicalInserted⟩

/-- A written-out object is canonical when its members are. -/
theorem canonical_record {members : List (String × Json)}
    (canonical : ∀ member ∈ members, member.2.Canonical) : (record members).Canonical := by
  apply record_induction Canonical
  · exact ⟨List.Pairwise.nil, trivial⟩
  · intro member inside built kept
    exact canonical_insertMember (canonical member inside) kept

theorem lookup_member (key other : Bytes) (value : Json) (members : List (Bytes × Json)) :
    ((key, value) :: members).lookup other =
      if other = key then some value else members.lookup other := by
  rw [List.lookup_cons]
  by_cases same : other = key
  · simp [same]
  · simp [same, beq_eq_false_iff_ne.mpr same]

theorem lookup_insertMember (key other : Bytes) (value : Json) (members : List (Bytes × Json)) :
    (insertMember key value members).lookup other =
      if other = key then some value else members.lookup other := by
  induction members with
  | nil => exact lookup_member key other value []
  | cons first members ih =>
      obtain ⟨kept, stored⟩ := first
      unfold insertMember
      grind [lookup_member]

/-- The last assignment to a key counts. -/
theorem member?_record (members : List (String × Json)) (key : String) :
    (record members).member? key =
      (members.reverse.find? fun member => key == member.1).map Prod.snd := by
  unfold record ofMembers member?
  dsimp only
  rw [← List.foldr_reverse, ← List.map_reverse]
  induction members.reverse with
  | nil => rfl
  | cons last earlier ih =>
      rw [List.map_cons, List.foldr_cons, lookup_insertMember, ih, List.find?_cons]
      by_cases same : key = last.1
      · simp [same]
      · simp [utf8_inj, same, beq_eq_false_iff_ne.mpr same]

@[simp] theorem isText_text (value : String) : (text value).isText = true := validUtf8_utf8 value

@[simp] theorem canonical_text (value : String) : (text value).Canonical := trivial

theorem isObject_of_member? {key : String} {value member : Json}
    (found : value.member? key = some member) : value.isObject = true := by
  cases value with
  | object members => rfl
  | null | bool | integer | float | string | array => cases found

end JVLinkServer.Json
