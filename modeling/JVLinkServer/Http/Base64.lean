import JVLinkServer.Http.Headers

namespace JVLinkServer.Http

/-! # Base64 -/

def base64Alphabet : Bytes :=
  utf8 "ABCDEFGHIJKLMNOPQRSTUVWXYZabcdefghijklmnopqrstuvwxyz0123456789+/"

/-- `lookup[(val >> valb) & 0x3F]` -/
def lookupSextet (val : UInt32) (valb : Nat) : UInt8 :=
  base64Alphabet.getD ((val >>> .ofNat valb) &&& 0x3F).toNat 61

/-- The inner loop of `base64_encode`.  The number is `valb + 6`. -/
def pushSextets (val : UInt32) : Nat → Bytes × Nat
  | valb + 6 =>
      let rest := pushSextets val valb
      (lookupSextet val valb :: rest.1, rest.2)
  | bits => ([], bits)

/-- The loop of `base64_encode`, with what it leaves in `val` and `valb + 6`. -/
def pushBytes : (val : UInt32) → (bits : Nat) → Bytes → Bytes × (UInt32 × Nat)
  | val, bits, [] => ([], (val, bits))
  | val, bits, byte :: rest =>
      let val := (val <<< 8) + byte.toUInt32
      let pushed := pushSextets val (bits + 8)
      let later := pushBytes val pushed.2 rest
      (pushed.1 ++ later.1, later.2)

/-- `base64_encode` -/
def base64Encode (bytes : Bytes) : Bytes :=
  let (out, (val, bits)) := pushBytes 0 0 bytes
  let out := if 0 < bits then out ++ [lookupSextet (val <<< 8) (bits + 2)] else out
  out ++ List.replicate ((4 - out.length % 4) % 4) 61

example : base64Encode (utf8 "course") = utf8 "Y291cnNl" := by decide

example : base64Encode (utf8 "a map") = utf8 "YSBtYXA=" := by decide

/-! ## Its length -/

theorem pushSextets_length (val : UInt32) (bits : Nat) :
    6 * (pushSextets val bits).1.length + (pushSextets val bits).2 = bits ∧
      (pushSextets val bits).2 < 6 := by
  fun_induction pushSextets val bits with
  | case1 valb rest ih =>
      change 6 * ((pushSextets val valb).1.length + 1) + (pushSextets val valb).2 = valb + 6 ∧ _
      exact ⟨by omega, ih.2⟩
  | case2 bits few =>
      have small : bits < 6 := Nat.lt_of_not_le fun many => few (bits - 6) (by omega)
      exact ⟨by simp, small⟩

theorem pushBytes_length (val : UInt32) {bits : Nat} (small : bits < 6) (bytes : Bytes) :
    6 * (pushBytes val bits bytes).1.length + (pushBytes val bits bytes).2.2 =
        bits + 8 * bytes.length ∧
      (pushBytes val bits bytes).2.2 < 6 := by
  induction bytes generalizing val bits with
  | nil => exact ⟨by simp [pushBytes], small⟩
  | cons byte rest ih =>
      have pushed := pushSextets_length ((val <<< 8) + byte.toUInt32) (bits + 8)
      have later := ih ((val <<< 8) + byte.toUInt32) pushed.2
      simp only [pushBytes, List.length_append, List.length_cons]
      omega

/-- Four characters for three bytes, and four for what is left. -/
theorem length_base64Encode (bytes : Bytes) :
    (base64Encode bytes).length = 4 * ((bytes.length + 2) / 3) := by
  have pushed := pushBytes_length 0 (by decide : 0 < 6) bytes
  have whole : (pushBytes 0 0 bytes).1.length = 4 * (bytes.length / 3) + bytes.length % 3 := by
    omega
  have left : (pushBytes 0 0 bytes).2.2 = 2 * (bytes.length % 3) := by omega
  have remainder : bytes.length % 3 = 0 ∨ bytes.length % 3 = 1 ∨ bytes.length % 3 = 2 := by omega
  simp only [base64Encode, left]
  split
  · simp only [List.length_append, List.length_replicate, List.length_singleton, whole]
    omega
  · simp only [List.length_append, List.length_replicate, whole]
    omega

/-! ## Its characters -/

def isBase64 (byte : UInt8) : Bool := base64Alphabet.contains byte || byte == 61

theorem isBase64_lookupSextet (val : UInt32) (valb : Nat) :
    isBase64 (lookupSextet val valb) = true := by
  rw [lookupSextet, List.getD_eq_getElem?_getD]
  cases found : base64Alphabet[((val >>> .ofNat valb) &&& 0x3F).toNat]? with
  | none => rfl
  | some byte =>
      have member := List.mem_of_getElem? found
      simp [isBase64, member]

theorem isBase64_pushSextets (val : UInt32) (bits : Nat) :
    ∀ byte ∈ (pushSextets val bits).1, isBase64 byte = true := by
  fun_induction pushSextets val bits with
  | case1 valb rest ih =>
      intro byte inside
      obtain rfl | inside := List.mem_cons.mp inside
      · exact isBase64_lookupSextet val valb
      · exact ih byte inside
  | case2 bits few => simp

theorem isBase64_pushBytes (val : UInt32) (bits : Nat) (bytes : Bytes) :
    ∀ byte ∈ (pushBytes val bits bytes).1, isBase64 byte = true := by
  induction bytes generalizing val bits with
  | nil => simp [pushBytes]
  | cons byte rest ih =>
      intro pushed inside
      obtain inside | inside := List.mem_append.mp inside
      · exact isBase64_pushSextets _ _ pushed inside
      · exact ih _ _ pushed inside

theorem isBase64_base64Encode (bytes : Bytes) :
    ∀ byte ∈ base64Encode bytes, isBase64 byte = true := by
  intro byte inside
  simp only [base64Encode] at inside
  obtain inside | padding := List.mem_append.mp inside
  · split at inside
    · obtain inside | last := List.mem_append.mp inside
      · exact isBase64_pushBytes _ _ _ byte inside
      · exact List.mem_singleton.mp last ▸ isBase64_lookupSextet _ _
    · exact isBase64_pushBytes _ _ _ byte inside
  · rw [List.eq_of_mem_replicate padding]
    rfl

theorem isFieldVchar_of_base64 {byte : UInt8} (base64 : isBase64 byte = true) :
    isFieldVchar byte = true ∧ byte ≠ 37 := by
  have all : (base64Alphabet ++ [61]).all (fun byte => isFieldVchar byte && byte != 37) = true := by
    decide
  have member : byte ∈ base64Alphabet ++ [61] := by
    simpa [isBase64] using base64
  simpa using List.all_eq_true.mp all byte member

end JVLinkServer.Http
