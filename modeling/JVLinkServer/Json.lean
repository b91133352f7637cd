import JVLinkServer.Utf8Decoder

namespace JVLinkServer

/-! # JSON documents

Values, their text, and the parser of texts.  A string is a byte string: a value
can hold bytes that are not text, and then it has no text.
-/

/-- The members of an object are in the order of their keys.  A number that is not
an integer is kept as it was written. -/
inductive Json
  | null
  | bool (value : Bool)
  | integer (value : Int)
  | float (literal : Bytes)
  | string (value : Bytes)
  | array (items : List Json)
  | object (members : List (Bytes × Json))

namespace Json

/-! ## Objects -/

/-- Assign a member; a later assignment to a key replaces an earlier one. -/
def insertMember (key : Bytes) (value : Json) : List (Bytes × Json) → List (Bytes × Json)
  | [] => [(key, value)]
  | (other, kept) :: rest =>
      if key = other then (key, value) :: rest
      else if key < other then (key, value) :: (other, kept) :: rest
      else (other, kept) :: insertMember key value rest

def ofMembers (members : List (Bytes × Json)) : Json :=
  .object (members.foldl (fun built member => insertMember member.1 member.2 built) [])

/-- An object from its written-out members. -/
def record (members : List (String × Json)) : Json :=
  ofMembers (members.map fun member => (utf8 member.1, member.2))

def text (value : String) : Json := .string (utf8 value)

/-- The member of an object under a key, if the value is an object and has one. -/
def member? (key : String) : Json → Option Json
  | .object members => members.lookup (utf8 key)
  | _ => none

def string? : Json → Option Bytes
  | .string value => some value
  | _ => none

def isObject : Json → Bool
  | .object _ => true
  | _ => false

/-! ## Text -/

def hexDigit (value : UInt8) : UInt8 := if value < 10 then 48 + value else 87 + value

/-- The letter of a two-character escape. -/
def shortEscape (byte : UInt8) : Option UInt8 :=
  if byte = 8 then some 98
  else if byte = 9 then some 116
  else if byte = 10 then some 110
  else if byte = 12 then some 102
  else if byte = 13 then some 114
  else if byte = 34 ∨ byte = 92 then some byte
  else none

def escape (byte : UInt8) : Bytes :=
  match shortEscape byte with
  | some letter => [92, letter]
  | none =>
      if byte < 32 then [92, 117, 48, 48, hexDigit (byte / 16), hexDigit (byte % 16)] else [byte]

def renderString (value : Bytes) : Bytes := 34 :: (value.flatMap escape ++ [34])

mutual

def render : Json → Bytes
  | .null => utf8 "null"
  | .bool true => utf8 "true"
  | .bool false => utf8 "false"
  | .integer value => decimal value
  | .float literal => literal
  | .string value => renderString value
  | .array [] => utf8 "[]"
  | .array (item :: rest) => 91 :: (render item ++ renderItems rest)
  | .object [] => utf8 "\x7b\x7d"
  | .object ((key, value) :: rest) =>
      123 :: (renderString key ++ 58 :: (render value ++ renderMembers rest))

def renderItems : List Json → Bytes
  | [] => [93]
  | item :: rest => 44 :: (render item ++ renderItems rest)

def renderMembers : List (Bytes × Json) → Bytes
  | [] => [125]
  | (key, value) :: rest =>
      44 :: (renderString key ++ 58 :: (render value ++ renderMembers rest))

end

mutual

/-- Every string in the value, keys included, is well-formed UTF-8. -/
def isText : Json → Bool
  | .string value => validUtf8 value
  | .array items => allText items
  | .object members => membersText members
  | _ => true

def allText : List Json → Bool
  | [] => true
  | item :: rest => isText item && allText rest

def membersText : List (Bytes × Json) → Bool
  | [] => true
  | (key, value) :: rest => validUtf8 key && isText value && membersText rest

end

def hexBytes (byte : UInt8) : String :=
  let digits := "0123456789ABCDEF".toList
  String.ofList [digits.getD (byte / 16).toNat '0', digits.getD (byte % 16).toNat '0']

/-- What `dump_escaped` says of a string that is not well-formed. -/
def utf8Fault? : (index : Nat) → (state : Utf8State) → (last : UInt8) → Bytes → Option String
  | _, state, last, [] =>
      if state.missing = 0 then none
      else some ("incomplete UTF-8 string; last byte: 0x" ++ hexBytes last)
  | index, state, _, byte :: rest =>
      match decodeByte state byte with
      | none =>
          some ("invalid UTF-8 byte at index " ++ toString index ++ ": 0x" ++ hexBytes byte)
      | some next => utf8Fault? (index + 1) next byte rest

mutual

/-- The strings of a value as they are written. -/
def strings : Json → List Bytes
  | .string value => [value]
  | .array items => itemStrings items
  | .object members => memberStrings members
  | _ => []

def itemStrings : List Json → List Bytes
  | [] => []
  | item :: rest => strings item ++ itemStrings rest

def memberStrings : List (Bytes × Json) → List Bytes
  | [] => []
  | (key, value) :: rest => key :: (strings value ++ memberStrings rest)

end

/-- The text of a value, or the error of its first string that is not well-formed. -/
def dump (value : Json) : Except String Bytes :=
  if value.isText then .ok value.render
  else
    .error ("[json.exception.type_error.316] " ++
      (value.strings.findSome? (utf8Fault? 0 {} 0)).getD "")

theorem utf8Fault?_eq_none_iff (index : Nat) (state : Utf8State) (last : UInt8) (bytes : Bytes) :
    utf8Fault? index state last bytes = none ↔ decodesFrom state bytes = true := by
  induction bytes generalizing index state last with
  | nil => simp [utf8Fault?, decodesFrom]
  | cons byte rest ih =>
      unfold utf8Fault? decodesFrom
      cases decodeByte state byte with
      | none => simp
      | some next => exact ih (index + 1) next byte

mutual

theorem isText_iff (value : Json) :
    value.isText = true ↔ ∀ string ∈ value.strings, validUtf8 string = true := by
  cases value with
  | null => simp [isText, strings]
  | bool value => simp [isText, strings]
  | integer value => simp [isText, strings]
  | float literal => simp [isText, strings]
  | string value => simp [isText, strings]
  | array items => simpa only [isText, strings] using allText_iff items
  | object members => simpa only [isText, strings] using membersText_iff members

theorem allText_iff (items : List Json) :
    allText items = true ↔ ∀ string ∈ itemStrings items, validUtf8 string = true := by
  cases items with
  | nil => simp [allText, itemStrings]
  | cons item rest =>
      rw [allText, Bool.and_eq_true, isText_iff item, allText_iff rest, itemStrings]
      exact List.forall_mem_append.symm

theorem membersText_iff (members : List (Bytes × Json)) :
    membersText members = true ↔ ∀ string ∈ memberStrings members, validUtf8 string = true := by
  cases members with
  | nil => simp [membersText, memberStrings]
  | cons member rest =>
      rw [membersText, Bool.and_eq_true, Bool.and_eq_true, isText_iff member.2,
        membersText_iff rest, memberStrings, List.forall_mem_cons, List.forall_mem_append,
        and_assoc]

end

/-- A value that has no text has an error that says where a string is not well-formed. -/
theorem dump_error_iff (value : Json) (message : String) :
    value.dump = .error message ↔
      ∃ fault, value.strings.findSome? (utf8Fault? 0 {} 0) = some fault ∧
        message = "[json.exception.type_error.316] " ++ fault := by
  have text : value.isText = true ↔ value.strings.findSome? (utf8Fault? 0 {} 0) = none := by
    simp only [isText_iff, List.findSome?_eq_none_iff, utf8Fault?_eq_none_iff, decodesFrom_eq]
  unfold dump
  cases found : value.strings.findSome? (utf8Fault? 0 {} 0) with
  | none => simp [text.mpr found]
  | some fault =>
      have broken : ¬ value.isText = true := by
        rw [text, found]
        exact Option.some_ne_none fault
      simp [broken, eq_comm]

example : (Json.string [97, 255]).dump =
    .error "[json.exception.type_error.316] invalid UTF-8 byte at index 1: 0xFF" := by
  decide +kernel

/-! ## Parsing -/

def isBlank (byte : UInt8) : Bool := byte == 32 || byte == 9 || byte == 10 || byte == 13

def skipBlanks (input : Bytes) : Bytes := input.dropWhile isBlank

/-- The rest of the input after a fixed word. -/
def expect (word : Bytes) (input : Bytes) : Option Bytes :=
  if word.isPrefixOf input then some (input.drop word.length) else none

/-- The byte of a two-character escape. -/
def unescape (byte : UInt8) : Option UInt8 :=
  if byte = 34 ∨ byte = 92 ∨ byte = 47 then some byte
  else if byte = 98 then some 8
  else if byte = 102 then some 12
  else if byte = 110 then some 10
  else if byte = 114 then some 13
  else if byte = 116 then some 9
  else none

def encodeCode (code : Nat) : Bytes := String.utf8EncodeChar (Char.ofNat code)

/-- The rest of a string after its opening quote, without a check of the bytes.
Escapes outside the basic plane are pairs of surrogates. -/
def scanString : Bytes → Option (Bytes × Bytes)
  | [] => none
  | byte :: rest =>
      if byte = 34 then some ([], rest)
      else if byte < 32 then none
      else if byte ≠ 92 then (scanString rest).map fun scanned => (byte :: scanned.1, scanned.2)
      else
        match rest with
        | [] => none
        | kind :: rest =>
            if kind ≠ 117 then
              match unescape kind with
              | none => none
              | some byte => (scanString rest).map fun scanned => (byte :: scanned.1, scanned.2)
            else
              match rest with
              | first :: second :: third :: fourth :: rest =>
                  match fromHex? 4 [first, second, third, fourth] with
                  | none => none
                  | some code =>
                      if code < 0xD800 ∨ 0xE000 ≤ code then
                        (scanString rest).map fun scanned => (encodeCode code ++ scanned.1, scanned.2)
                      else
                        match rest with
                        | slash :: letter :: first :: second :: third :: fourth :: rest =>
                            match fromHex? 4 [first, second, third, fourth] with
                            | none => none
                            | some low =>
                                if slash = 92 ∧ letter = 117 ∧ code < 0xDC00 ∧ 0xDC00 ≤ low ∧
                                    low < 0xE000 then
                                  (scanString rest).map fun scanned =>
                                    (encodeCode (0x10000 + (code - 0xD800) * 1024 + (low - 0xDC00))
                                      ++ scanned.1, scanned.2)
                                else none
                        | _ => none
              | _ => none

def parseString (input : Bytes) : Option (Bytes × Bytes) :=
  match scanString input with
  | some (value, rest) => if validUtf8 value then some (value, rest) else none
  | none => none

/-- The text of the fraction and exponent of a number, possibly empty. -/
def scanFraction (input : Bytes) : Option (Bytes × Bytes) :=
  let fraction : Option (Bytes × Bytes) :=
    match input with
    | 46 :: rest =>
        let digits := rest.takeWhile isDigit
        if digits.isEmpty then none else some (46 :: digits, rest.drop digits.length)
    | _ => some ([], input)
  match fraction with
  | none => none
  | some (fraction, input) =>
      match input with
      | mark :: rest =>
          if mark = 101 ∨ mark = 69 then
            let sign := (rest.take 1).filter fun byte => byte == 43 || byte == 45
            let digits := (rest.drop sign.length).takeWhile isDigit
            if digits.isEmpty then none
            else some (fraction ++ mark :: (sign ++ digits),
              rest.drop (sign.length + digits.length))
          else
            some (fraction, input)
      | [] => some (fraction, [])

def parseUnsigned (negative : Bool) (input : Bytes) : Option (Json × Bytes) :=
  let digits := input.takeWhile isDigit
  if digits.isEmpty ∨ (digits.head? = some 48 ∧ 1 < digits.length) then none
  else
    match scanFraction (input.drop digits.length) with
    | none => none
    | some ([], rest) =>
        some (.integer (if negative then -(ofDecimal digits : Int) else ofDecimal digits), rest)
    | some (fraction, rest) =>
        some (.float ((if negative then [45] else []) ++ digits ++ fraction), rest)

def parseNumber : Bytes → Option (Json × Bytes)
  | [] => none
  | byte :: rest =>
      if byte = 45 then parseUnsigned true rest else parseUnsigned false (byte :: rest)

mutual

def parseValue : (fuel : Nat) → Bytes → Option (Json × Bytes)
  | 0, _ => none
  | fuel + 1, input =>
      match skipBlanks input with
      | [] => none
      | byte :: rest =>
          if byte = 34 then
            (parseString rest).map fun parsed => (.string parsed.1, parsed.2)
          else if byte = 91 then
            match expect [93] (skipBlanks rest) with
            | some rest => some (.array [], rest)
            | none => (parseItems fuel rest).map fun parsed => (.array parsed.1, parsed.2)
          else if byte = 123 then
            match expect [125] (skipBlanks rest) with
            | some rest => some (.object [], rest)
            | none => (parseMembers fuel rest).map fun parsed => (ofMembers parsed.1, parsed.2)
          else if byte = 110 then
            (expect (utf8 "ull") rest).map fun rest => (.null, rest)
          else if byte = 116 then
            (expect (utf8 "rue") rest).map fun rest => (.bool true, rest)
          else if byte = 102 then
            (expect (utf8 "alse") rest).map fun rest => (.bool false, rest)
          else
            parseNumber (byte :: rest)

/-- Items up to the closing bracket; there is at least one. -/
def parseItems : (fuel : Nat) → Bytes → Option (List Json × Bytes)
  | 0, _ => none
  | fuel + 1, input =>
      match parseValue fuel input with
      | none => none
      | some (item, rest) =>
          match expect [93] (skipBlanks rest), expect [44] (skipBlanks rest) with
          | some rest, _ => some ([item], rest)
          | none, some rest => (parseItems fuel rest).map fun parsed => (item :: parsed.1, parsed.2)
          | none, none => none

/-- Members up to the closing brace; there is at least one. -/
def parseMembers : (fuel : Nat) → Bytes → Option (List (Bytes × Json) × Bytes)
  | 0, _ => none
  | fuel + 1, input =>
      match expect [34] (skipBlanks input) with
      | none => none
      | some rest =>
          match parseString rest with
          | none => none
          | some (key, rest) =>
              match expect [58] (skipBlanks rest) with
              | none => none
              | some rest =>
                  match parseValue fuel rest with
                  | none => none
                  | some (value, rest) =>
                      match expect [125] (skipBlanks rest), expect [44] (skipBlanks rest) with
                      | some rest, _ => some ([(key, value)], rest)
                      | none, some rest =>
                          (parseMembers fuel rest).map fun parsed =>
                            ((key, value) :: parsed.1, parsed.2)
                      | none, none => none

end

/-- A document is one value with nothing but blanks around it. -/
def parse (input : Bytes) : Option Json :=
  match parseValue (input.length + 1) input with
  | some (value, rest) => if (skipBlanks rest).isEmpty then some value else none
  | none => none

end Json

end JVLinkServer
