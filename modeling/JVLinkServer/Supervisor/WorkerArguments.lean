import JVLinkServer.CommandLine
import JVLinkServer.JsonRoundTrip
import JVLinkServer.Supervisor.WorkerProcessManager

namespace JVLinkServer.Supervisor

open CommandLine CommandLine.Reader

/-! # The arguments of the worker process

The supervisor writes the command line of the worker; the runtime of the worker splits it,
and `parseArguments` reads the pieces.
-/

structure ServerConfig where
  port : Int := 8765
  sid : Bytes := utf8 "UNKNOWN"
  logLevel : Bytes := utf8 "info"
  mode : Bytes := utf8 "supervisor"
  help : Bool := false
  version : Bool := false

/-- The environment variables that the server reads. -/
structure ServerVariables where
  port : Option Bytes := none
  logLevel : Option Bytes := none
  sid : Option Bytes := none
  mode : Option Bytes := none

def isSpace (byte : UInt8) : Bool := byte == 32 || (9 ≤ byte && byte ≤ 13)

/-- A number out of range gives the nearest `int`. -/
def atoi (text : Bytes) : Int :=
  let number := text.dropWhile isSpace
  let digits := if number.head? = some 45 ∨ number.head? = some 43 then number.tail else number
  let value : Int := ofDecimal (digits.takeWhile isDigit)
  if number.head? = some 45 then max (-value) (-2 ^ 31) else min value (2 ^ 31 - 1)

def readFlags : ServerConfig → List Bytes → ServerConfig
  | config, [] => config
  | config, arg :: rest =>
      if arg = utf8 "--help" ∨ arg = utf8 "-h" then readFlags { config with help := true } rest
      else if arg = utf8 "--version" ∨ arg = utf8 "-v" then
        readFlags { config with version := true } rest
      else if arg = utf8 "--port" ∨ arg = utf8 "-p" then
        match rest with
        | value :: rest => readFlags { config with port := atoi value } rest
        | [] => config
      else if arg = utf8 "--log-level" ∨ arg = utf8 "-l" then
        match rest with
        | value :: rest => readFlags { config with logLevel := value } rest
        | [] => config
      else if arg = utf8 "--sid" then
        match rest with
        | value :: rest => readFlags { config with sid := value } rest
        | [] => config
      else if arg = utf8 "--mode" then
        match rest with
        | value :: rest => readFlags { config with mode := value } rest
        | [] => config
      else readFlags config rest

/-- The configuration that the variables give. -/
def variablesConfig (env : ServerVariables) : ServerConfig where
  port := (env.port.map atoi).getD 8765
  logLevel := env.logLevel.getD (utf8 "info")
  sid := env.sid.getD (utf8 "UNKNOWN")
  mode := (env.mode.filter (!·.isEmpty)).getD (utf8 "supervisor")

def parseArguments (env : ServerVariables) (argv : List Bytes) : ServerConfig :=
  readFlags (variablesConfig env) argv.tail

/-- The command line reaches the process up to its first NUL. -/
def workerConfig (env : ServerVariables) (manager : WorkerProcessManager) (port : Nat) :
    ServerConfig :=
  parseArguments env
    (splitArguments ((workerCommandLine manager port).takeWhile (· != 0)))

/-! ## Quoted values -/

/-- Quotes with a backslash before them. -/
def escaped (value : Bytes) : Bytes :=
  value.flatMap fun byte => if byte = 34 then [92, 34] else [byte]

theorem quoteCommandArg_eq (value : Bytes) :
    quoteCommandArg value = quote :: (escaped value ++ [quote]) := rfl

@[simp] theorem escaped_nil : escaped [] = [] := rfl

theorem escaped_append (first second : Bytes) :
    escaped (first ++ second) = escaped first ++ escaped second :=
  List.flatMap_append

theorem escaped_quote : escaped [quote] = [backslash, quote] := rfl

theorem escaped_byte {byte : UInt8} (other : byte ≠ quote) : escaped [byte] = [byte] := by
  simp [escaped, show byte ≠ 34 from other]

/-- Every backslash is followed by a byte that is no quote. -/
def Quotable : Bytes → Bool
  | [] => true
  | byte :: rest => (byte != backslash || rest.head?.any (· != quote)) && Quotable rest

/-- Inside the quotes of an argument. -/
def opened (argument : Bytes) : Reading where
  argument := argument
  quoting := .inside

/-- After an even number of backslashes the quote is read, as it was meant. -/
theorem escapedQuote_even {reading : Reading} (even : reading.slashes % 2 = 0) :
    (reading.accept backslash).accept quote =
      { argument := reading.argument ++ List.replicate (reading.slashes / 2) backslash ++ [quote]
        quoting := reading.quoting.afterByte } := by
  have odd : (reading.slashes + 1) % 2 = 1 := by omega
  have half : (reading.slashes + 1) / 2 = reading.slashes / 2 := by omega
  simp [Reading.accept, odd, half, show quote ≠ backslash by decide]

/-- After an odd number of them the quote ends what is quoted, or begins it. -/
theorem escapedQuote_odd {reading : Reading} (odd : reading.slashes % 2 = 1) :
    (reading.accept backslash).accept quote =
      { argument := reading.argument ++ List.replicate (reading.slashes / 2 + 1) backslash
        quoting := reading.quoting.afterByte.afterQuote } := by
  have even : (reading.slashes + 1) % 2 = 0 := by omega
  have half : (reading.slashes + 1) / 2 = reading.slashes / 2 + 1 := by omega
  have closing : reading.quoting.afterByte ≠ .closing := by
    cases reading.quoting <;> simp [Quoting.afterByte]
  simp [Reading.accept, even, half, closing, show quote ≠ backslash by decide]

theorem size_escapedQuote_le (reading : Reading) :
    ((reading.accept backslash).accept quote).size ≤ reading.size + 1 := by
  rcases Nat.mod_two_eq_zero_or_one reading.slashes with even | odd
  · simp [escapedQuote_even even, Reading.size]
    omega
  · simp [escapedQuote_odd odd, Reading.size]
    omega

theorem read_escaped_quote {reader : Reader} {reading : Reading}
    (current : reader.current = some reading) :
    reader.read (escaped [quote]) =
      { reader with current := some ((reading.accept backslash).accept quote) } := by
  rw [escaped_quote]
  simp [Reader.accept, current]

theorem inArgument_read_escapedQuote (reading : Reading) :
    (inArgument reading).read (escaped [quote]) =
      inArgument ((reading.accept backslash).accept quote) :=
  read_escaped_quote rfl

theorem read_escaped_size_le (reader : Reader) (byte : UInt8) :
    (reader.read (escaped [byte])).size ≤ reader.size + 1 := by
  by_cases quotes : byte = quote
  · subst quotes
    cases current : reader.current with
    | none =>
        have one : _ ≤ 0 + 1 := size_escapedQuote_le {}
        rw [escaped_quote]
        simpa [Reader.accept, current, Reader.size] using one
    | some reading =>
        have one := size_escapedQuote_le reading
        rw [read_escaped_quote current]
        simp only [Reader.size, current, Option.map_some, Option.getD_some]
        omega
  · rw [escaped_byte quotes]
    exact reader.size_read_le [byte]

theorem read_escaped_le (reader : Reader) (value : Bytes) :
    (reader.read (escaped value)).size ≤ reader.size + value.length := by
  induction value generalizing reader with
  | nil => exact Nat.le_refl _
  | cons byte value ih =>
      have first := read_escaped_size_le reader byte
      have rest := ih (reader.read (escaped [byte]))
      rw [← List.singleton_append, escaped_append, Reader.read_append, List.length_append,
        List.length_singleton]
      omega

theorem opened_size_le {value : Bytes} {reading : Reading}
    (read : (inArgument (opened [])).read (escaped value) = inArgument reading) :
    reading.size ≤ value.length := by
  have bound := read_escaped_le (inArgument (opened [])) value
  rw [read, size_inArgument, size_inArgument] at bound
  exact bound.trans_eq (Nat.zero_add _)

theorem inArgument_read_byte {reading after : Reading} {byte : UInt8} (other : byte ≠ quote)
    (inside : reading.quoting = .inside)
    (read : (inArgument reading).read (escaped [byte]) = inArgument after) :
    reading.accept byte = after := by
  rw [escaped_byte other, read_cons, inArgument_accept, if_neg (by simp [inside]), read_nil] at read
  simpa [inArgument] using read

theorem inArgument_read_quote (reading : Reading) :
    (inArgument reading).read [quote] = inArgument (reading.accept quote) := by
  rw [read_cons, inArgument_accept, if_neg (by simp), read_nil]

theorem quotable_append {first second : Bytes} (left : Quotable first = true)
    (right : Quotable second = true) : Quotable (first ++ second) = true := by
  induction first with
  | nil => exact right
  | cons byte first ih =>
      simp only [Quotable, Bool.and_eq_true, List.cons_append] at left ⊢
      refine ⟨?_, ih left.2⟩
      cases first with
      | nil => simp only [List.head?_nil, Option.any_none, Bool.or_false] at left; simp [left.1]
      | cons next first => simpa using left.1

theorem quotable_slashes {byte : UInt8} (other : byte ≠ backslash) (slashes : Nat)
    (literal : slashes = 0 ∨ byte ≠ quote) :
    Quotable (List.replicate slashes backslash ++ [byte]) = true := by
  induction slashes with
  | zero => simp [Quotable, other]
  | succ slashes ih =>
      have later : byte ≠ quote := by simpa using literal
      rw [List.replicate_succ, List.cons_append, Quotable, ih (.inr later)]
      cases slashes with
      | zero => simp [later]
      | succ slashes => simp [List.replicate_succ, show backslash ≠ quote by decide]

/-- What is read in full is read inside the quotes, and as it was meant. -/
theorem read_escaped_full {value : Bytes} {reading : Reading}
    (read : (inArgument (opened [])).read (escaped value) = inArgument reading)
    (full : value.length ≤ reading.size) :
    reading.quoting = .inside ∧ reading.text = value ∧ Quotable reading.argument = true := by
  induction value using List.reverseRecOn generalizing reading with
  | nil =>
      cases read
      exact ⟨rfl, rfl, rfl⟩
  | append_singleton value byte ih =>
      rw [escaped_append] at read
      obtain ⟨middle, first, last⟩ := inArgument_read_append read
      have before := opened_size_le first
      have step := read_escaped_size_le (inArgument middle) byte
      rw [last] at step
      simp only [size_inArgument, List.length_append, List.length_singleton] at step full
      obtain ⟨inside, text, quotable⟩ := ih first (by omega)
      by_cases quotes : byte = quote
      · subst quotes
        rw [inArgument_read_escapedQuote] at last
        obtain rfl : (middle.accept backslash).accept quote = reading := by
          simpa [inArgument] using last
        rcases Nat.mod_two_eq_zero_or_one middle.slashes with even | odd
        · rw [escapedQuote_even even] at full ⊢
          have none : middle.slashes = 0 := by
            simp only [Reading.size, List.length_append, List.length_replicate,
              List.length_singleton] at full before
            omega
          have read : middle.argument = value := by simpa [Reading.text, none] using text
          refine ⟨by simp [inside, Quoting.afterByte], by simp [Reading.text, none, read], ?_⟩
          simpa [none] using quotable_append quotable (by decide : Quotable [quote] = true)
        · rw [escapedQuote_odd odd] at full
          simp only [Reading.size, List.length_append, List.length_replicate] at full before
          omega
      · rw [← inArgument_read_byte quotes inside last]
        by_cases slash : byte = backslash
        · subst slash
          refine ⟨by simp [Reading.accept, inside, Quoting.afterByte], ?_, quotable⟩
          rw [← text]
          simp [Reading.accept, Reading.text, List.replicate_succ']
        · refine ⟨by simp [Reading.accept, slash, quotes, inside, Quoting.afterByte], ?_, ?_⟩
          · rw [← text]
            simp [Reading.accept, Reading.text, slash, quotes]
          · have read := quotable_append quotable
              (quotable_slashes slash middle.slashes (.inr quotes))
            simpa [Reading.accept, Reading.text, slash, quotes] using read

theorem read_escaped_quotable {value : Bytes} (quotable : Quotable value = true)
    {reading : Reading} (inside : reading.quoting = .inside)
    (literal : reading.slashes = 0 ∨ value.head?.any (· != quote)) :
    (inArgument reading).read (escaped value) = inArgument (opened (reading.text ++ value)) := by
  induction value generalizing reading with
  | nil =>
      have none : reading.slashes = 0 := by simpa using literal
      obtain ⟨argument, slashes, quoting⟩ := reading
      simp_all [Reading.text, opened]
  | cons byte value ih =>
      rw [Quotable, Bool.and_eq_true] at quotable
      rw [← List.singleton_append, escaped_append, read_append]
      by_cases quotes : byte = quote
      · subst quotes
        have none : reading.slashes = 0 := by simpa using literal
        rw [inArgument_read_escapedQuote, escapedQuote_even (by rw [none])]
        refine (ih quotable.2 (by simp [inside, Quoting.afterByte]) (.inl rfl)).trans ?_
        simp [Reading.text, none]
      · rw [escaped_byte quotes, read_cons, read_nil, inArgument_accept, if_neg (by simp [inside])]
        by_cases slash : byte = backslash
        · subst slash
          have follows : value.head?.any (· != quote) = true := by simpa using quotable.1
          refine (ih quotable.2 (by simp [Reading.accept, inside, Quoting.afterByte])
            (.inr follows)).trans ?_
          simp [Reading.accept, Reading.text, List.replicate_succ']
        · refine (ih quotable.2 (by simp [Reading.accept, inside, Quoting.afterByte, slash, quotes])
            (.inl (by simp [Reading.accept, slash, quotes]))).trans ?_
          simp [Reading.accept, Reading.text, slash, quotes]

/-! ## The quote at the end -/

theorem read_escaped_closing {value : Bytes} {reading : Reading}
    (read : (inArgument (opened [])).read (escaped value) = inArgument reading)
    (closing : reading.quoting = .closing) (full : value.length ≤ reading.size + 1) :
    ∃ before, Quotable before = true ∧ value = before ++ [backslash, quote] := by
  rcases value.eq_nil_or_concat with rfl | ⟨value, byte, rfl⟩
  · cases read
    cases closing
  · rw [List.concat_eq_append] at read full ⊢
    rw [escaped_append] at read
    obtain ⟨middle, first, last⟩ := inArgument_read_append read
    have before := opened_size_le first
    simp only [List.length_append, List.length_singleton] at full
    by_cases quotes : byte = quote
    · subst quotes
      rw [inArgument_read_escapedQuote] at last
      obtain rfl : (middle.accept backslash).accept quote = reading := by
        simpa [inArgument] using last
      rcases Nat.mod_two_eq_zero_or_one middle.slashes with even | odd
      · rw [escapedQuote_even even] at closing
        cases quoting : middle.quoting <;> simp [quoting, Quoting.afterByte] at closing
      · rw [escapedQuote_odd odd] at full
        simp only [Reading.size, List.length_append, List.length_replicate] at full before
        obtain ⟨-, text, quotable⟩ := read_escaped_full first (by rw [Reading.size]; omega)
        have one : middle.slashes = 1 := by omega
        refine ⟨middle.argument, quotable, ?_⟩
        rw [← text]
        simp [Reading.text, one]
    · rw [escaped_byte quotes, read_cons, read_nil, inArgument_accept] at last
      split at last
      · cases last
      · obtain rfl : middle.accept byte = reading := by simpa [inArgument] using last
        by_cases slash : byte = backslash <;> cases quoting : middle.quoting <;>
          simp [Reading.accept, slash, quotes, quoting, Quoting.afterByte] at closing

/-- Where the quote at the end gives back the value, it closed a value that could be quoted
or it was read as a part of it. -/
theorem quote_at_end {value : Bytes} {reading : Reading}
    (read : (inArgument (opened [])).read (escaped value) = inArgument reading)
    (same : (reading.accept quote).text = value) :
    (reading.accept quote).quoting = .closing ∧ Quotable value = true ∨
      (reading.accept quote).quoting = .inside ∧
        ∃ before, Quotable before = true ∧ value = before ++ [backslash, quote] := by
  have long := congrArg List.length same
  rcases Nat.mod_two_eq_zero_or_one reading.slashes with even | odd
  · by_cases closing : reading.quoting = .closing
    · rw [Reading.accept_quote_closing even closing] at long ⊢
      simp only [Reading.length_text, Reading.size, List.length_append, List.length_replicate,
        List.length_singleton] at long
      exact .inr ⟨rfl, read_escaped_closing read closing (by rw [Reading.size]; omega)⟩
    · rw [Reading.accept_quote_even even closing] at long same ⊢
      simp only [Reading.length_text, Reading.size, List.length_append,
        List.length_replicate] at long
      obtain ⟨inside, -, quotable⟩ := read_escaped_full read (by rw [Reading.size]; omega)
      have bound := opened_size_le read
      rw [Reading.size] at bound
      have none : reading.slashes = 0 := by omega
      have all : reading.argument = value := by simpa [Reading.text, none] using same
      exact .inl ⟨by rw [inside]; rfl, all ▸ quotable⟩
  · rw [Reading.accept_quote_odd odd] at long same
    simp only [Reading.length_text, Reading.size, List.length_append, List.length_replicate,
      List.length_singleton] at long
    obtain ⟨-, text, -⟩ := read_escaped_full read (by rw [Reading.size]; omega)
    have bound := opened_size_le read
    rw [Reading.size] at bound
    have one : reading.slashes = 1 := by omega
    rw [← text] at same
    simp [Reading.text, one, show quote ≠ backslash by decide] at same

/-! ## What flags can change -/

theorem readFlags_weight (config : ServerConfig) (args : List Bytes) :
    (if (readFlags config args).sid = config.sid then 0
      else (readFlags config args).sid.length + 7) +
    (if (readFlags config args).logLevel = config.logLevel then 0
      else (readFlags config args).logLevel.length + 4) ≤ weight args := by
  have short : (utf8 "-l").length = 2 := rfl
  have long : (utf8 "--log-level").length = 11 := rfl
  have sid : (utf8 "--sid").length = 5 := rfl
  fun_induction readFlags config args with
  | case1 => simp
  | case2 config arg rest flag ih => grind [weight_cons]
  | case3 config arg rest _ flag ih => grind [weight_cons]
  | case4 config arg _ _ flag value rest ih => grind [weight_cons]
  | case5 => simp
  | case6 config arg _ _ _ flag value rest ih => grind [weight_cons]
  | case7 => simp
  | case8 config _ _ _ _ value rest ih => grind [weight_cons]
  | case9 => simp
  | case10 config _ _ _ _ _ value rest ih => grind [weight_cons]
  | case11 => simp
  | case12 => grind [weight_cons]

theorem atoi_decimal {port : Nat} (fits : port < 2 ^ 31) : atoi (decimal port) = port := by
  have digits := Json.decimalNat_digits port
  change atoi (decimalNat port) = port
  cases text : decimalNat port with
  | nil => exact absurd text (Json.decimalNat_head port).1
  | cons first rest =>
      have digit := digits first (by rw [text]; exact List.mem_cons_self)
      have read : ofDecimal ((first :: rest).takeWhile isDigit) = port := by
        rw [List.takeWhile_eq_self_iff.mpr (text ▸ digits), ← text, Json.ofDecimal_decimalNat]
      have above : 48 ≤ first.toNat := by
        simp only [isDigit, Bool.decide_and, Bool.and_eq_true, decide_eq_true_eq] at digit
        exact UInt8.le_iff_toNat_le.mp digit.1
      have notSpace : ¬ isSpace first = true := by
        simp only [isSpace, Bool.or_eq_true, beq_iff_eq, Bool.and_eq_true, decide_eq_true_eq]
        rintro (rfl | ⟨-, low⟩)
        · contradiction
        · exact absurd (UInt8.le_iff_toNat_le.mp low) (by simp; omega)
      have notMinus : first ≠ 45 := by rintro rfl; contradiction
      have notPlus : first ≠ 43 := by rintro rfl; contradiction
      have bound : (port : Int) ≤ 2 ^ 31 - 1 := by omega
      simp only [atoi, List.dropWhile_cons_of_neg notSpace, List.head?_cons, Option.some.injEq,
        notMinus, notPlus, or_self, if_false, read, min_eq_left bound]

/-! ## The command line of the worker -/

/-- The arguments from the value of `--log-level` on. -/
def valueArguments (logLevel sid : Bytes) : List Bytes :=
  (({} : Reader).read (quoteCommandArg logLevel ++ utf8 " --sid " ++ quoteCommandArg sid)).arguments

/-- A path that Windows gives has neither quotes nor NULs. -/
structure IsPath (path : Bytes) : Prop where
  noQuote : quote ∉ path
  noNul : 0 ∉ path

theorem readFlags_worker (config : ServerConfig) (port logLevel : Bytes) (rest : List Bytes) :
    readFlags config
        (utf8 "--mode" :: utf8 "worker" :: utf8 "--port" :: port :: utf8 "--log-level" ::
          logLevel :: rest) =
      readFlags { config with mode := utf8 "worker", port := atoi port, logLevel } rest := by
  simp [readFlags, utf8_inj]

theorem readFlags_sid (config : ServerConfig) (sid : Bytes) (rest : List Bytes) :
    readFlags config (utf8 "--sid" :: sid :: rest) = readFlags { config with sid } rest := by
  simp [readFlags, utf8_inj]

theorem escaped_path {path : Bytes} (noQuote : quote ∉ path) : escaped path = path := by
  induction path with
  | nil => rfl
  | cons byte path ih =>
      rw [List.mem_cons, not_or] at noQuote
      rw [← List.singleton_append, escaped_append, escaped_byte (Ne.symm noQuote.1),
        ih noQuote.2]

theorem nul_not_mem_quoteCommandArg {value : Bytes} (noNul : 0 ∉ value) :
    0 ∉ quoteCommandArg value := by
  have inside : 0 ∉ escaped value := by
    intro zero
    obtain ⟨byte, member, written⟩ := List.mem_flatMap.mp zero
    split at written
    · simp at written
    · obtain rfl := List.mem_singleton.mp written
      exact noNul member
  rw [quoteCommandArg_eq]
  simp [inside, quote]

theorem isPlain_digit {byte : UInt8} (digit : isDigit byte = true) : isPlain byte = true := by
  have nonBlank : isBlank byte = false := by
    rw [isBlank, Bool.or_eq_false_iff, beq_eq_false_iff_ne, beq_eq_false_iff_ne]
    constructor <;> rintro rfl <;> contradiction
  have noQuote : byte ≠ quote := by rintro rfl; contradiction
  have noSlash : byte ≠ backslash := by rintro rfl; contradiction
  simp [isPlain, nonBlank, noQuote, noSlash]

theorem splitArguments_workerCommandLine {manager : WorkerProcessManager} (port : Nat)
    (noQuote : quote ∉ manager.executablePath) :
    splitArguments (workerCommandLine manager port) =
      manager.executablePath ::
        ([utf8 "--mode", utf8 "worker", utf8 "--port", decimal port, utf8 "--log-level"] ++
          valueArguments manager.logLevel manager.sid) := by
  have digits : ∀ byte ∈ decimal port, isPlain byte = true := by
    intro byte member
    exact isPlain_digit (Json.decimalNat_digits port byte member)
  have line : workerCommandLine manager port =
      quote :: (manager.executablePath ++ quote :: 32 ::
        ((utf8 "--mode" ++ [32]) ++ ((utf8 "worker" ++ [32]) ++ ((utf8 "--port" ++ [32]) ++
          ((decimal port ++ [32]) ++ ((utf8 "--log-level" ++ [32]) ++
            (quoteCommandArg manager.logLevel ++ utf8 " --sid " ++
              quoteCommandArg manager.sid))))))) := by
    have mode : utf8 " --mode worker --port " =
        32 :: (utf8 "--mode" ++ [32] ++ (utf8 "worker" ++ [32] ++ (utf8 "--port" ++ [32]))) := by
      decide
    have logLevel : utf8 " --log-level " = 32 :: (utf8 "--log-level" ++ [32]) := by decide
    rw [workerCommandLine, quoteCommandArg_eq manager.executablePath, escaped_path noQuote, mode,
      logLevel]
    simp
  rw [line, splitArguments, programName_quoted noQuote]
  dsimp only
  rw [read_append, read_word _ (by decide +kernel) (by decide +kernel), read_append,
    read_word _ (by decide +kernel) (by decide +kernel), read_append,
    read_word _ (by decide +kernel) (by decide +kernel), read_append,
    read_word _ digits (Json.decimalNat_head port).1, read_append,
    read_word _ (by decide +kernel) (by decide +kernel), arguments_read_done]
  rfl

theorem valueArguments_eq (logLevel sid : Bytes) :
    valueArguments logLevel sid =
      ((inArgument (opened [])).read (escaped logLevel ++ ([quote] ++ (utf8 " --sid " ++
        ([quote] ++ (escaped sid ++ [quote])))))).arguments := by
  have opens : ({} : Reader).accept quote = inArgument (opened []) := rfl
  rw [valueArguments, quoteCommandArg_eq, quoteCommandArg_eq]
  simp only [List.cons_append, read_cons, opens, List.append_assoc, List.nil_append]

theorem arguments_sid {reading : Reading} (closed : reading.quoting ≠ .inside) (text : Bytes) :
    ((inArgument reading).read (utf8 " --sid " ++ ([quote] ++ text))).arguments =
      [reading.text, utf8 "--sid"] ++ ((inArgument (opened [])).read text).arguments := by
  have flag : utf8 " --sid " = 32 :: (utf8 "--sid" ++ [32]) := by decide
  have ended : (inArgument reading).accept 32 = { done := [reading.text] } := by
    rw [inArgument_accept, if_pos ⟨closed, rfl⟩]
  have opens : ({ done := [reading.text] ++ [utf8 "--sid"] } : Reader).accept quote =
      { done := [reading.text] ++ [utf8 "--sid"], current := some (opened []) } := rfl
  rw [flag, List.cons_append, read_cons, ended, read_append,
    read_word _ (by decide +kernel) (by decide +kernel), read_append, read_cons, opens, read_nil,
    arguments_read_done]
  rfl

/-- Inside quotes the flag becomes a part of the value. -/
theorem read_sid_inside {reading : Reading} (inside : reading.quoting = .inside) :
    (inArgument reading).read (utf8 " --sid ") =
      inArgument (opened (reading.text ++ utf8 " --sid ")) := by
  have flag : escaped (utf8 " --sid ") = utf8 " --sid " := by decide
  have quotable : Quotable (utf8 " --sid ") = true := by decide
  have read := read_escaped_quotable quotable inside (.inr (by decide))
  rwa [flag] at read

/-- A quoted value can be read back, apart from the last one where a backslash and a quote may be
the last two bytes. -/
def LastQuotable (value : Bytes) : Prop :=
  Quotable value = true ∨
    ∃ before, Quotable before = true ∧ value = before ++ [backslash, quote]

theorem arguments_last {value : Bytes} (quotable : LastQuotable value) :
    ((inArgument (opened [])).read (escaped value ++ [quote])).arguments = [value] := by
  rcases quotable with quotable | ⟨before, quotable, rfl⟩
  · rw [read_append, read_escaped_quotable quotable rfl (.inl rfl), inArgument_read_quote]
    rw [Reading.accept_quote_even rfl (by simp [opened])]
    simp [opened, Reading.text, arguments, inArgument]
  · rw [escaped_append, List.append_assoc, read_append,
      read_escaped_quotable quotable rfl (.inl rfl)]
    simp [arguments, inArgument, opened, Reading.text, escaped, Reader.accept, Reading.accept,
      Quoting.afterByte, Quoting.afterQuote, backslash, quote, isBlank]

/-- A value that is read back was not split. -/
theorem not_split {value line : Bytes} {rest : List Bytes}
    (read : ((inArgument (opened [])).read (escaped value ++ line)).arguments = value :: rest) :
    ∃ reading, (inArgument (opened [])).read (escaped value) = inArgument reading := by
  apply inArgument_read
  have bound := read_escaped_le (inArgument (opened [])) value
  rw [read_append] at read
  have kept := done_read ((inArgument (opened [])).read (escaped value)) line
  cases done : ((inArgument (opened [])).read (escaped value)).done with
  | nil => rfl
  | cons argument others =>
      rw [done] at kept
      obtain ⟨more, ended⟩ := kept
      rw [arguments, ← ended, List.cons_append, List.cons_append, List.cons.injEq] at read
      rw [Reader.size, done, weight_cons, read.1] at bound
      change value.length + 1 + _ + _ ≤ 0 + value.length at bound
      omega

theorem lastQuotable_of_arguments {value : Bytes} {rest : List Bytes}
    (read : ((inArgument (opened [])).read (escaped value ++ [quote])).arguments = value :: rest) :
    LastQuotable value := by
  obtain ⟨reading, whole⟩ := not_split read
  rw [read_append, whole, inArgument_read_quote] at read
  obtain ⟨same, -⟩ := List.cons.inj read
  rcases quote_at_end whole same with ⟨-, quotable⟩ | ⟨-, quotable⟩
  · exact .inl quotable
  · exact .inr quotable

theorem weight_last (reader : Reader) (value : Bytes) :
    weight (reader.read (escaped value ++ [quote])).arguments ≤ reader.size + value.length + 2 := by
  have inner := read_escaped_le reader value
  have last := (reader.read (escaped value)).size_read_le [quote]
  have all := weight_arguments_le ((reader.read (escaped value)).read [quote])
  rw [List.length_singleton] at last
  rw [read_append]
  omega

theorem weight_values (logLevel sid : Bytes) :
    weight (valueArguments logLevel sid) ≤ logLevel.length + sid.length + 11 := by
  rw [valueArguments_eq, read_append, read_append, read_append, read_append]
  have first := read_escaped_le (inArgument (opened [])) logLevel
  generalize (inArgument (opened [])).read (escaped logLevel) = level at first
  have closed := level.size_read_le [quote]
  generalize level.read [quote] = closing at closed
  have flag := closing.size_read_le (utf8 " --sid ")
  generalize closing.read (utf8 " --sid ") = flagged at flag
  have opened := flagged.size_read_le [quote]
  generalize flagged.read [quote] = opening at opened
  have last := weight_last opening sid
  change level.size ≤ 0 + logLevel.length at first
  change flagged.size ≤ closing.size + 7 at flag
  rw [List.length_singleton] at closed opened
  omega

/-- The two values of the command line and what a configuration needs of them. -/
theorem quotable_of_config {logLevel sid : Bytes} {config : ServerConfig}
    (other : config.sid ≠ sid) {rest : List Bytes}
    (values : valueArguments logLevel sid = config.logLevel :: rest)
    (sameLevel : (readFlags config rest).logLevel = logLevel)
    (sameSid : (readFlags config rest).sid = sid) :
    Quotable logLevel = true ∧ LastQuotable sid := by
  have changed := readFlags_weight config rest
  rw [sameLevel, sameSid, if_neg (Ne.symm other)] at changed
  have total := values ▸ weight_values logLevel sid
  rw [weight_cons] at total
  have level : config.logLevel = logLevel := by
    by_contra different
    rw [if_neg (Ne.symm different)] at changed
    omega
  rw [level] at values total
  rw [valueArguments_eq] at values
  obtain ⟨reading, whole⟩ := not_split values
  rw [read_append, whole, read_append, inArgument_read_quote] at values
  by_cases inside : (reading.accept quote).quoting = .inside
  · exfalso
    rw [read_append, read_sid_inside inside, read_append] at values
    generalize started : opened ((reading.accept quote).text ++ utf8 " --sid ") = swallowing
      at values
    have whole : swallowing.size = swallowing.argument.length := by rw [← started]; rfl
    obtain ⟨argument, others, same, longer⟩ :=
      arguments_inArgument swallowing ([quote] ++ (escaped sid ++ [quote]))
    rw [read_append, values] at same
    obtain ⟨rfl, rfl⟩ := List.cons.inj same
    rw [if_pos level.symm] at changed
    have long := longer.length_le
    have one := (inArgument swallowing).size_read_le [quote]
    have last := weight_last ((inArgument swallowing).read [quote]) sid
    rw [values, weight_cons] at last
    rw [size_inArgument, List.length_singleton] at one
    omega
  · rw [arguments_sid inside, List.cons_append, List.cons.injEq] at values
    obtain ⟨text, later⟩ := values
    refine ⟨?_, ?_⟩
    · rcases quote_at_end whole text with ⟨-, quotable⟩ | ⟨opens, -⟩
      · exact quotable
      · exact absurd opens inside
    · obtain ⟨argument, more, read, -⟩ := arguments_inArgument (opened []) (escaped sid ++ [quote])
      rw [read] at later
      subst later
      rw [List.cons_append, List.nil_append, readFlags_sid] at sameSid
      have moved := readFlags_weight { config with sid := argument } more
      have bound := weight_last (inArgument (opened [])) sid
      rw [read, weight_cons] at bound
      change _ ≤ 0 + sid.length + 2 at bound
      obtain rfl : argument = sid := by
        by_contra different
        rw [sameSid, if_neg (Ne.symm different)] at moved
        omega
      exact lastQuotable_of_arguments read

theorem config_of_quotable {logLevel sid : Bytes} (level : Quotable logLevel = true)
    (last : LastQuotable sid) :
    valueArguments logLevel sid = [logLevel, utf8 "--sid", sid] := by
  rw [valueArguments_eq, read_append, read_escaped_quotable level rfl (.inl rfl), read_append,
    inArgument_read_quote, Reading.accept_quote_even rfl (by simp [opened]),
    arguments_sid (by simp [opened, Quoting.afterQuote]), arguments_last last]
  simp [opened, Reading.text]

/-- The worker gets the values of the supervisor. -/
def SameConfig (manager : WorkerProcessManager) (port : UInt16) (config : ServerConfig) : Prop :=
  config.sid = manager.sid ∧ config.logLevel = manager.logLevel ∧
    config.mode = utf8 "worker" ∧ config.port = port.toNat

theorem nul_not_mem_workerCommandLine {manager : WorkerProcessManager}
    (path : IsPath manager.executablePath) (noSidNul : 0 ∉ manager.sid)
    (noLevelNul : 0 ∉ manager.logLevel) (port : Nat) : 0 ∉ workerCommandLine manager port := by
  have digits : 0 ∉ decimal port := fun member =>
    absurd (Json.decimalNat_digits port 0 member) (by decide)
  simp only [workerCommandLine, List.mem_append, not_or]
  exact ⟨⟨⟨⟨⟨⟨nul_not_mem_quoteCommandArg path.noNul, by decide⟩, digits⟩,
    by decide⟩, nul_not_mem_quoteCommandArg noLevelNul⟩, by decide⟩,
    nul_not_mem_quoteCommandArg noSidNul⟩

theorem workerConfig_eq {manager : WorkerProcessManager} (path : IsPath manager.executablePath)
    (noSidNul : 0 ∉ manager.sid) (noLevelNul : 0 ∉ manager.logLevel) (env : ServerVariables)
    (port : UInt16) :
    workerConfig env manager port.toNat =
      readFlags (variablesConfig env)
        ([utf8 "--mode", utf8 "worker", utf8 "--port", decimal port.toNat, utf8 "--log-level"] ++
          valueArguments manager.logLevel manager.sid) := by
  have whole : (workerCommandLine manager port.toNat).takeWhile (· != 0) =
      workerCommandLine manager port.toNat := by
    apply List.takeWhile_eq_self_iff.mpr
    intro byte member
    rw [bne_iff_ne]
    rintro rfl
    exact nul_not_mem_workerCommandLine path noSidNul noLevelNul port.toNat member
  rw [workerConfig, whole, splitArguments_workerCommandLine port.toNat path.noQuote]
  rfl

/-- The values of the supervisor survive the command line, in every environment, exactly
when no backslash stands right before a quote or at the end of a value. -/
theorem worker_config_iff (manager : WorkerProcessManager) (port : UInt16)
    (path : IsPath manager.executablePath) (noSidNul : 0 ∉ manager.sid)
    (noLevelNul : 0 ∉ manager.logLevel) :
    (∀ env, SameConfig manager port (workerConfig env manager port.toNat)) ↔
      Quotable manager.logLevel = true ∧ LastQuotable manager.sid := by
  constructor
  · intro same
    have config := same { sid := some (manager.sid ++ [0]) }
    rw [workerConfig_eq path noSidNul noLevelNul] at config
    obtain ⟨first, rest, values, -⟩ := arguments_inArgument (opened [])
      (escaped manager.logLevel ++ ([quote] ++ (utf8 " --sid " ++
        ([quote] ++ (escaped manager.sid ++ [quote])))))
    rw [← valueArguments_eq] at values
    rw [values, List.cons_append, List.cons_append, List.cons_append, List.cons_append,
      List.cons_append, List.nil_append, readFlags_worker] at config
    obtain ⟨sid, level, -⟩ := config
    refine quotable_of_config ?_ values level sid
    simp [variablesConfig]
  · rintro ⟨level, last⟩ env
    rw [workerConfig_eq path noSidNul noLevelNul, config_of_quotable level last]
    rw [List.cons_append, List.cons_append, List.cons_append, List.cons_append, List.cons_append,
      List.nil_append, readFlags_worker, readFlags_sid, readFlags]
    exact ⟨rfl, rfl, rfl, atoi_decimal (by have := port.toNat_lt; omega)⟩

def supervisorWith (sid logLevel : Bytes) : WorkerProcessManager where
  sid := sid
  logLevel := logLevel
  executablePath := utf8 "server.exe"

/-- A software id with a blank and two quotes. -/
def quotedSid : Bytes := [97, 32, 34, 98, 34]

theorem worker_config_iff_quotes :
    (∀ env, SameConfig (supervisorWith quotedSid (utf8 "info")) 49152
        (workerConfig env (supervisorWith quotedSid (utf8 "info")) 49152)) ↔
      Quotable (utf8 "info") = true ∧ LastQuotable quotedSid :=
  worker_config_iff (supervisorWith quotedSid (utf8 "info")) 49152
    ⟨by decide, by decide⟩ (by decide) (by decide)

/-- A backslash at the end of the software id reaches the worker as a quote. -/
theorem trailing_backslash_changes_sid :
    ¬ ∀ (manager : WorkerProcessManager) (port : UInt16), IsPath manager.executablePath →
      0 ∉ manager.sid → 0 ∉ manager.logLevel →
      ∀ env, SameConfig manager port (workerConfig env manager port.toNat) := by
  intro same
  have config := same (supervisorWith [97, 92] (utf8 "info")) 49152
    ⟨by decide, by decide⟩ (by decide) (by decide) {}
  exact absurd config.1 (by decide)

end JVLinkServer.Supervisor
