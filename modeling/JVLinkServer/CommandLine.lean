import JVLinkServer.Text

namespace JVLinkServer.CommandLine

/-! # Splitting a command line

The Microsoft C runtime splits the command line of a process into its arguments.
Backslashes are literal unless a quote follows them, where half of them are left and an
odd one makes the quote literal.  Inside quotes, two quotes are a literal one.
-/

def quote : UInt8 := 34

def backslash : UInt8 := 92

def isBlank (byte : UInt8) : Bool := byte == 32 || byte == 9

@[simp] theorem isBlank_quote : isBlank quote = false := rfl

@[simp] theorem isBlank_backslash : isBlank backslash = false := rfl

inductive Quoting
  | outside
  | inside
  /-- After a quote inside quotes: one more is literal. -/
  | closing
  deriving DecidableEq, Repr

namespace Quoting

def afterByte : Quoting → Quoting
  | inside => inside
  | outside | closing => outside

def afterQuote : Quoting → Quoting
  | inside => closing
  | outside | closing => inside

end Quoting

/-- An argument that is being read, with the backslashes whose meaning is still open. -/
structure Reading where
  argument : Bytes := []
  slashes : Nat := 0
  quoting : Quoting := .outside
  deriving DecidableEq, Repr

namespace Reading

def text (reading : Reading) : Bytes :=
  reading.argument ++ List.replicate reading.slashes backslash

def accept (reading : Reading) (byte : UInt8) : Reading :=
  if byte = backslash then
    { reading with
      slashes := reading.slashes + 1
      quoting := reading.quoting.afterByte }
  else if byte ≠ quote then
    { argument := reading.text ++ [byte]
      quoting := reading.quoting.afterByte }
  else
    let half := reading.argument ++ List.replicate (reading.slashes / 2) backslash
    if reading.slashes % 2 = 1 then
      { argument := half ++ [quote], quoting := reading.quoting }
    else if reading.quoting = .closing then
      { argument := half ++ [quote], quoting := .inside }
    else { argument := half, quoting := reading.quoting.afterQuote }

end Reading

/-- The arguments that have been read, and the one that is being read. -/
structure Reader where
  done : List Bytes := []
  current : Option Reading := none
  deriving DecidableEq, Repr

namespace Reader

def accept (reader : Reader) (byte : UInt8) : Reader :=
  match reader.current with
  | none =>
      if isBlank byte then reader
      else { reader with current := some (({} : Reading).accept byte) }
  | some reading =>
      if reading.quoting ≠ .inside ∧ isBlank byte then
        { done := reader.done ++ [reading.text] }
      else { reader with current := some (reading.accept byte) }

def read (reader : Reader) (line : Bytes) : Reader := line.foldl accept reader

def arguments (reader : Reader) : List Bytes :=
  reader.done ++ reader.current.toList.map Reading.text

end Reader

/-- The name of the program: quotes only keep blanks, backslashes mean nothing. -/
def programName (inQuotes : Bool) : Bytes → Bytes × Bytes
  | [] => ([], [])
  | byte :: rest =>
      if byte = quote then programName (!inQuotes) rest
      else if !inQuotes && isBlank byte then ([], rest)
      else
        let (name, after) := programName inQuotes rest
        (byte :: name, after)

def splitArguments (line : Bytes) : List Bytes :=
  let (name, rest) := programName false line
  name :: (({} : Reader).read rest).arguments

/-! ## What is read is not longer than what was there -/

def weight (arguments : List Bytes) : Nat := (arguments.map (·.length + 1)).sum

@[simp] theorem weight_nil : weight [] = 0 := rfl

@[simp] theorem weight_cons (argument : Bytes) (rest : List Bytes) :
    weight (argument :: rest) = argument.length + 1 + weight rest := by
  simp [weight]

@[simp] theorem weight_append (first second : List Bytes) :
    weight (first ++ second) = weight first + weight second := by
  simp [weight]

namespace Reading

def size (reading : Reading) : Nat := reading.argument.length + reading.slashes

@[simp] theorem length_text (reading : Reading) : reading.text.length = reading.size := by
  simp [text, size]

theorem accept_quote_odd {reading : Reading} (odd : reading.slashes % 2 = 1) :
    reading.accept quote =
      { argument := reading.argument ++ List.replicate (reading.slashes / 2) backslash ++ [quote]
        quoting := reading.quoting } := by
  simp [accept, odd, show quote ≠ backslash by decide]

theorem accept_quote_closing {reading : Reading} (even : reading.slashes % 2 = 0)
    (closing : reading.quoting = .closing) :
    reading.accept quote =
      { argument := reading.argument ++ List.replicate (reading.slashes / 2) backslash ++ [quote]
        quoting := .inside } := by
  simp [accept, even, closing, show quote ≠ backslash by decide]

theorem accept_quote_even {reading : Reading} (even : reading.slashes % 2 = 0)
    (opens : reading.quoting ≠ .closing) :
    reading.accept quote =
      { argument := reading.argument ++ List.replicate (reading.slashes / 2) backslash
        quoting := reading.quoting.afterQuote } := by
  simp [accept, even, opens, show quote ≠ backslash by decide]

theorem size_accept_le (reading : Reading) (byte : UInt8) :
    (reading.accept byte).size ≤ reading.size + 1 := by
  unfold accept size
  split
  · exact Nat.le_refl _
  · split
    · simp [size]
    · split
      · simp
        omega
      · split <;> simp <;> omega

theorem argument_accept (reading : Reading) (byte : UInt8) :
    reading.argument <+: (reading.accept byte).argument := by
  unfold accept text
  split
  · exact List.prefix_rfl
  · split
    · exact ⟨_, (List.append_assoc _ _ _).symm⟩
    · split
      · exact ⟨_, (List.append_assoc _ _ _).symm⟩
      · split
        · exact ⟨_, (List.append_assoc _ _ _).symm⟩
        · exact List.prefix_append _ _

end Reading

namespace Reader

def size (reader : Reader) : Nat :=
  weight reader.done + (reader.current.map Reading.size).getD 0

@[simp] theorem read_nil (reader : Reader) : reader.read [] = reader := rfl

@[simp] theorem read_cons (reader : Reader) (byte : UInt8) (line : Bytes) :
    reader.read (byte :: line) = (reader.accept byte).read line := rfl

theorem read_append (reader : Reader) (first second : Bytes) :
    reader.read (first ++ second) = (reader.read first).read second :=
  List.foldl_append

theorem size_accept_le (reader : Reader) (byte : UInt8) :
    (reader.accept byte).size ≤ reader.size + 1 := by
  unfold accept
  cases current : reader.current with
  | none =>
      dsimp only
      split
      · exact Nat.le_succ _
      · have one := ({} : Reading).size_accept_le byte
        simpa [size, current, Reading.size] using one
  | some reading =>
      dsimp only
      split
      · simp [size, current]
        omega
      · have one := reading.size_accept_le byte
        simp only [size, current, Option.map_some, Option.getD_some]
        omega

theorem size_read_le (reader : Reader) (line : Bytes) :
    (reader.read line).size ≤ reader.size + line.length := by
  induction line generalizing reader with
  | nil => exact Nat.le_refl _
  | cons byte line ih =>
      have first := reader.size_accept_le byte
      have rest := ih (reader.accept byte)
      rw [read_cons, List.length_cons]
      omega

theorem weight_arguments_le (reader : Reader) : weight reader.arguments ≤ reader.size + 1 := by
  unfold arguments size
  cases reader.current <;> simp
  omega

/-! ## The arguments that have been read stay -/

theorem accept_done (before : List Bytes) (reader : Reader) (byte : UInt8) :
    ({ reader with done := before ++ reader.done } : Reader).accept byte =
      { reader.accept byte with done := before ++ (reader.accept byte).done } := by
  obtain ⟨done, current⟩ := reader
  cases current with
  | none =>
      unfold accept
      dsimp only
      split <;> rfl
  | some reading =>
      unfold accept
      dsimp only
      split
      · rw [List.append_assoc]
      · rfl

theorem read_done (before : List Bytes) (reader : Reader) (line : Bytes) :
    ({ reader with done := before ++ reader.done } : Reader).read line =
      { reader.read line with done := before ++ (reader.read line).done } := by
  induction line generalizing reader with
  | nil => rfl
  | cons byte line ih => rw [read_cons, accept_done, ih, read_cons]

theorem arguments_read_done (before : List Bytes) (current : Option Reading) (line : Bytes) :
    (({ done := before, current } : Reader).read line).arguments =
      before ++ (({ current } : Reader).read line).arguments := by
  have kept := read_done before { current } line
  rw [List.append_nil] at kept
  rw [kept]
  simp [arguments]

theorem done_read (reader : Reader) (line : Bytes) : reader.done <+: (reader.read line).done := by
  have kept := read_done reader.done { current := reader.current } line
  rw [List.append_nil] at kept
  change reader.read line = _ at kept
  rw [kept]
  exact List.prefix_append _ _

/-- Nothing has been read but what is being read. -/
def inArgument (reading : Reading) : Reader where
  current := some reading

@[simp] theorem size_inArgument (reading : Reading) : (inArgument reading).size = reading.size :=
  Nat.zero_add _

theorem inArgument_accept (reading : Reading) (byte : UInt8) :
    (inArgument reading).accept byte =
      if reading.quoting ≠ .inside ∧ isBlank byte then { done := [reading.text] }
      else inArgument (reading.accept byte) := rfl

theorem inArgument_read {reading : Reading} {line : Bytes}
    (none : ((inArgument reading).read line).done = []) :
    ∃ after, (inArgument reading).read line = inArgument after := by
  induction line generalizing reading with
  | nil => exact ⟨reading, rfl⟩
  | cons byte line ih =>
      rw [read_cons, inArgument_accept] at none ⊢
      split at none
      · have kept := done_read { done := [reading.text] } line
        rw [none] at kept
        exact absurd (List.prefix_nil.mp kept) (List.cons_ne_nil _ _)
      · next inside =>
          rw [if_neg inside]
          exact ih none

theorem inArgument_read_append {reading after : Reading} {first second : Bytes}
    (read : (inArgument reading).read (first ++ second) = inArgument after) :
    ∃ middle, (inArgument reading).read first = inArgument middle ∧
      (inArgument middle).read second = inArgument after := by
  rw [read_append] at read
  have kept := done_read ((inArgument reading).read first) second
  rw [read] at kept
  obtain ⟨middle, same⟩ := inArgument_read (List.prefix_nil.mp kept)
  exact ⟨middle, same, same ▸ read⟩

/-- An argument that is being read is where the next one comes from. -/
theorem arguments_inArgument (reading : Reading) (line : Bytes) :
    ∃ argument rest, ((inArgument reading).read line).arguments = argument :: rest ∧
      reading.argument <+: argument := by
  induction line generalizing reading with
  | nil => exact ⟨reading.text, [], rfl, List.prefix_append _ _⟩
  | cons byte line ih =>
      rw [read_cons, inArgument_accept]
      split
      · exact ⟨reading.text, _, arguments_read_done _ _ _, List.prefix_append _ _⟩
      · obtain ⟨argument, rest, read, longer⟩ := ih (reading.accept byte)
        exact ⟨argument, rest, read, (reading.argument_accept byte).trans longer⟩

end Reader

/-! ## Words without quotes -/

def isPlain (byte : UInt8) : Bool := !isBlank byte && byte != quote && byte != backslash

theorem Reading.accept_plain {argument : Bytes} {byte : UInt8} (plain : isPlain byte = true) :
    ({ argument } : Reading).accept byte = { argument := argument ++ [byte] } := by
  simp only [isPlain, Bool.and_eq_true, Bool.not_eq_true', bne_iff_ne] at plain
  simp [Reading.accept, Reading.text, plain, Quoting.afterByte]

namespace Reader

theorem read_plain (argument : Bytes) {word : Bytes} (plain : ∀ byte ∈ word, isPlain byte = true) :
    (inArgument { argument }).read word = inArgument { argument := argument ++ word } := by
  induction word generalizing argument with
  | nil => rw [read_nil, List.append_nil]
  | cons byte word ih =>
      have first := plain byte List.mem_cons_self
      have notBlank : isBlank byte = false := by
        simp only [isPlain, Bool.and_eq_true, Bool.not_eq_true'] at first
        exact first.1.1
      rw [read_cons, inArgument_accept, if_neg (by simp [notBlank]), Reading.accept_plain first,
        ih _ fun other inside => plain other (List.mem_cons_of_mem _ inside)]
      simp

theorem read_word (done : List Bytes) {word : Bytes} (plain : ∀ byte ∈ word, isPlain byte = true)
    (some : word ≠ []) : ({ done } : Reader).read (word ++ [32]) = { done := done ++ [word] } := by
  have alone : ({} : Reader).read (word ++ [32]) = { done := [word] } := by
    cases word with
    | nil => exact absurd rfl some
    | cons byte word =>
        have first := plain byte List.mem_cons_self
        have notBlank : isBlank byte = false := by
          simp only [isPlain, Bool.and_eq_true, Bool.not_eq_true'] at first
          exact first.1.1
        have opens : ({} : Reader).accept byte = inArgument { argument := [byte] } := by
          simp only [accept, notBlank, Bool.false_eq_true, if_false, inArgument]
          rw [Reading.accept_plain first, List.nil_append]
        rw [List.cons_append, read_cons, opens, read_append,
          read_plain [byte] fun other inside => plain other (List.mem_cons_of_mem _ inside)]
        simp [inArgument_accept, isBlank, Reading.text]
  have kept := read_done done {} (word ++ [32])
  rw [List.append_nil, alone] at kept
  exact kept

end Reader

theorem programName_quoted {name : Bytes} (noQuote : quote ∉ name) (rest : Bytes) :
    programName false (quote :: (name ++ quote :: 32 :: rest)) = (name, rest) := by
  have inside : programName true (name ++ quote :: 32 :: rest) = (name, rest) := by
    induction name with
    | nil => rfl
    | cons byte name ih =>
        rw [List.mem_cons, not_or] at noQuote
        rw [List.cons_append, programName, if_neg (Ne.symm noQuote.1), ih noQuote.2]
        rfl
  exact inside

end JVLinkServer.CommandLine
