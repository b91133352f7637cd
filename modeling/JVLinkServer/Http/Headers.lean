import JVLinkServer.Text

namespace JVLinkServer.Http

/-! # Header fields

`httplib` keeps header fields in a multimap.  A list in order of insertion stands
for it: fields of one name keep their order, and the order of different names has
no meaning.
-/

/-- `case_ignore::to_lower`, which also folds the upper-case half of Latin-1. -/
def toLower (byte : UInt8) : UInt8 :=
  if (65 ≤ byte ∧ byte ≤ 90) ∨ (192 ≤ byte ∧ byte ≤ 222 ∧ byte ≠ 215) then byte + 32 else byte

/-- `case_ignore::equal`.  On the ASCII names of the program `_stricmp` agrees. -/
def sameName (left right : Bytes) : Bool := left.map toLower == right.map toLower

abbrev Header := Bytes × Bytes

abbrev Headers := List Header

namespace Headers

/-- The values under a name, oldest first. -/
def values (headers : Headers) (name : String) : List Bytes :=
  (headers.filter fun header => sameName header.1 (utf8 name)).map Prod.snd

def has (headers : Headers) (name : String) : Bool :=
  headers.any fun header => sameName header.1 (utf8 name)

/-- `get_header_value`.  The value passes through a C string, so it ends at a NUL. -/
def value (headers : Headers) (name : String) (fallback : String := "") : Bytes :=
  match headers.values name with
  | [] => utf8 fallback
  | first :: _ => first.takeWhile (· != 0)

/-- `headers.emplace`, which checks nothing. -/
def emplace (headers : Headers) (name value : Bytes) : Headers := headers ++ [(name, value)]

def erase (headers : Headers) (name : String) : Headers :=
  headers.filter fun header => !sameName header.1 (utf8 name)

/-- Erase the field that a lookup finds, and no other of its name. -/
def eraseFirst (headers : Headers) (name : String) : Headers :=
  headers.eraseP fun header => sameName header.1 (utf8 name)

end Headers

/-! ## The grammar of fields -/

def isTokenChar (byte : UInt8) : Bool :=
  (48 ≤ byte ∧ byte ≤ 57) || (65 ≤ byte ∧ byte ≤ 90) || (97 ≤ byte ∧ byte ≤ 122) ||
    (utf8 "!#$%&'*+-.^_`|~").contains byte

/-- `is_field_name` -/
def isFieldName (name : Bytes) : Bool := !name.isEmpty && name.all isTokenChar

def isFieldVchar (byte : UInt8) : Bool := (33 ≤ byte ∧ byte ≤ 126) || 128 ≤ byte

def isSpaceOrTab (byte : UInt8) : Bool := byte == 32 || byte == 9

/-- `is_field_value`: no blank at either end, and no control character. -/
def isFieldValue (value : Bytes) : Bool :=
  value.head?.all isFieldVchar && value.getLast?.all isFieldVchar &&
    value.all fun byte => isSpaceOrTab byte || isFieldVchar byte

/-- `set_header`: a malformed name or value is dropped without notice. -/
def Headers.set (headers : Headers) (name : Bytes) (value : Bytes) : Headers :=
  if isFieldName name && isFieldValue value then headers.emplace name value else headers

namespace Headers

theorem values_append (first second : Headers) (name : String) :
    values (first ++ second) name = first.values name ++ second.values name := by
  simp [values]

theorem values_set (headers : Headers) (field value : Bytes) (name : String) :
    (headers.set field value).values name =
      headers.values name ++
        (if sameName field (utf8 name) && (isFieldName field && isFieldValue value) then [value]
          else []) := by
  unfold set emplace values
  cases isFieldName field && isFieldValue value <;>
    cases same : sameName field (utf8 name) <;> simp [same]

/-- Fields of other names are not looked at. -/
theorem values_set_other {headers : Headers} {field value : Bytes} {name : String}
    (other : sameName field (utf8 name) = false) :
    (headers.set field value).values name = headers.values name := by
  simp [values_set, other]

theorem values_erase_other {headers : Headers} {erased name : String}
    (other : sameName (utf8 erased) (utf8 name) = false) :
    (headers.erase erased).values name = headers.values name := by
  unfold erase values
  rw [List.filter_filter]
  congr 2
  funext header
  unfold sameName at other ⊢
  cases same : header.1.map toLower == (utf8 name).map toLower with
  | false => rfl
  | true =>
      rw [beq_iff_eq] at same
      rw [same, Bool.true_and, Bool.not_eq_true']
      exact beq_eq_false_iff_ne.mpr fun equal => beq_eq_false_iff_ne.mp other equal.symm

theorem values_eraseFirst_other {headers : Headers} {erased name : String}
    (other : sameName (utf8 erased) (utf8 name) = false) :
    (headers.eraseFirst erased).values name = headers.values name := by
  have different (header : Header) (found : sameName header.1 (utf8 erased) = true) :
      sameName header.1 (utf8 name) = false := by
    unfold sameName at other found ⊢
    rw [beq_iff_eq.mp found]
    exact other
  unfold eraseFirst values
  induction headers with
  | nil => rfl
  | cons header headers ih =>
      rw [List.eraseP_cons]
      cases found : sameName header.1 (utf8 erased) with
      | true => rw [cond_true, List.filter_cons_of_neg (by simp [different header found])]
      | false =>
          rw [cond_false, List.filter_cons, List.filter_cons]
          split
          · rw [List.map_cons, List.map_cons, ih]
          · exact ih

end Headers

/-! ## Percent decoding -/

/-- `to_utf8` of a code below 2^16; surrogates have no encoding. -/
def toUtf8 (code : Nat) : Bytes :=
  if code < 0x80 then [.ofNat code]
  else if code < 0x800 then [.ofNat (0xC0 + code / 64 % 32), .ofNat (0x80 + code % 64)]
  else if code < 0xD800 ∨ 0xE000 ≤ code then
    [.ofNat (0xE0 + code / 4096 % 16), .ofNat (0x80 + code / 64 % 64), .ofNat (0x80 + code % 64)]
  else []

/-- The loop of `decode_url`, with the bytes of an escape still to be passed over. -/
def decodeUrlSkipping : (skip : Nat) → Bytes → Bytes
  | _, [] => []
  | skip + 1, _ :: rest => decodeUrlSkipping skip rest
  | 0, byte :: rest =>
      if byte = 37 then
        if rest.head? = some 117 then
          match fromHex? 4 (rest.drop 1) with
          | some code => toUtf8 code ++ decodeUrlSkipping 5 rest
          | none => byte :: decodeUrlSkipping 0 rest
        else
          match fromHex? 2 rest with
          | some code => .ofNat code :: decodeUrlSkipping 2 rest
          | none => byte :: decodeUrlSkipping 0 rest
      else
        byte :: decodeUrlSkipping 0 rest

/-- `decode_url` without the conversion of plus signs. -/
def decodeUrl (value : Bytes) : Bytes := decodeUrlSkipping 0 value

example : decodeUrl (utf8 "a%0D%0Ab%4") = [97, 13, 10, 98, 37, 52] := by decide

/-- `parse_header` on a line without its terminator. -/
def parseHeader (line : Bytes) : Option Header :=
  let line := (line.reverse.dropWhile isSpaceOrTab).reverse
  let name := line.takeWhile (· != 58)
  match line.drop name.length with
  | [] => none
  | _ :: rest =>
      let value := rest.dropWhile isSpaceOrTab
      if isFieldName name && isFieldValue value then
        if sameName name (utf8 "Location") || sameName name (utf8 "Referer") then
          some (name, value)
        else
          some (name, decodeUrl value)
      else
        none

/-- A field line of `write_headers`, which writes name and value as they are. -/
def writeHeader (header : Header) : Bytes :=
  header.1 ++ utf8 ": " ++ header.2

end JVLinkServer.Http
