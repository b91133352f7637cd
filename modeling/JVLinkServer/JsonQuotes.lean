import JVLinkServer.JsonLines

namespace JVLinkServer.Json

/-! # Where the strings of a document are

A scanner that only follows quotes and backslashes.  Every text that the parser accepts
leaves it outside of a string, and no text with a broken string does.
-/

inductive Quoting
  | outside
  | inside
  | escaped
  | closed
  | broken
  deriving DecidableEq, Repr

namespace Quoting

def isLetter (byte : UInt8) : Bool := 97 ≤ byte && byte ≤ 122

/-- No letter follows directly on a string, and a backslash stands inside of one. -/
def step : Quoting → UInt8 → Quoting
  | .outside, byte => if byte = 34 then .inside else if byte = 92 then .broken else .outside
  | .inside, byte => if byte = 34 then .closed else if byte = 92 then .escaped else .inside
  | .escaped, _ => .inside
  | .closed, byte => if byte = 34 ∨ byte = 92 ∨ isLetter byte then .broken else .outside
  | .broken, _ => .broken

def after (quoting : Quoting) (text : Bytes) : Quoting := text.foldl step quoting

/-- Between the strings. -/
def Calm (quoting : Quoting) : Prop := quoting = .outside ∨ quoting = .closed

instance (quoting : Quoting) : Decidable quoting.Calm := by unfold Calm; infer_instance

variable {quoting : Quoting} {text : Bytes}

@[simp] theorem after_nil : quoting.after [] = quoting := rfl

@[simp] theorem after_cons (byte : UInt8) :
    quoting.after (byte :: text) = (quoting.step byte).after text := rfl

@[simp] theorem after_append (rest : Bytes) :
    quoting.after (text ++ rest) = (quoting.after text).after rest := List.foldl_append

@[simp] theorem after_broken : broken.after text = .broken := by
  induction text with
  | nil => rfl
  | cons byte text ih => exact ih

/-- Neither a quote nor a backslash. -/
def isPlain (byte : UInt8) : Bool := byte != 34 && byte != 92

theorem step_plain {byte : UInt8} (plain : isPlain byte = true) :
    step .outside byte = .outside ∧ step .inside byte = .inside := by
  simp only [isPlain, Bool.and_eq_true, bne_iff_ne] at plain
  simp [step, plain]

theorem after_plain (plain : ∀ byte ∈ text, isPlain byte = true) :
    outside.after text = .outside ∧ inside.after text = .inside := by
  induction text with
  | nil => exact ⟨rfl, rfl⟩
  | cons byte text ih =>
      have first := step_plain (plain byte (by simp))
      rw [after_cons, after_cons, first.1, first.2]
      exact ih fun other member => plain other (by simp [member])

/-- What may stand between the strings whatever stands before. -/
def isPunctuation (byte : UInt8) : Bool := isPlain byte && !isLetter byte

theorem Calm.step {byte : UInt8} (calm : quoting.Calm) (neutral : isPunctuation byte = true) :
    quoting.step byte = .outside := by
  simp only [isPunctuation, isPlain, Bool.and_eq_true, bne_iff_ne, Bool.not_eq_true'] at neutral
  obtain rfl | rfl := calm <;> simp [Quoting.step, neutral]

theorem Calm.after (calm : quoting.Calm) (neutral : ∀ byte ∈ text, isPunctuation byte = true) :
    (quoting.after text).Calm := by
  induction text generalizing quoting with
  | nil => exact calm
  | cons byte text ih =>
      have stays := calm.step (neutral byte (by simp))
      exact ih (.inl stays) fun other member => neutral other (by simp [member])

end Quoting

/-! ## What the parser consumes -/

/-- The text is cut off the input, and leads from one place to another. -/
def Leads (start : Quoting) (input rest : Bytes) (reached : Quoting → Prop) : Prop :=
  ∃ consumed, consumed ++ rest = input ∧ reached (start.after consumed)

section Parsing

open Quoting

variable {input middle rest : Bytes} {start quoting : Quoting} {reached : Quoting → Prop}

theorem Leads.trans (first : Leads start input middle (· = quoting))
    (second : Leads quoting middle rest reached) : Leads start input rest reached := by
  obtain ⟨early, rfl, led⟩ := first
  obtain ⟨late, rfl, arrived⟩ := second
  refine ⟨early ++ late, by simp, ?_⟩
  rw [after_append, led]
  exact arrived

theorem Leads.cons {byte : UInt8} (led : Leads (start.step byte) input rest reached) :
    Leads start (byte :: input) rest reached := by
  obtain ⟨consumed, rfl, arrived⟩ := led
  exact ⟨byte :: consumed, rfl, arrived⟩

theorem Leads.weaken {wider : Quoting → Prop} (led : Leads start input rest reached)
    (wide : ∀ quoting, reached quoting → wider quoting) : Leads start input rest wider := by
  obtain ⟨consumed, cut, arrived⟩ := led
  exact ⟨consumed, cut, wide _ arrived⟩

theorem punctuation_of_blank {byte : UInt8} (blank : isBlank byte = true) :
    isPunctuation byte = true := by
  simp only [isBlank, Bool.or_eq_true, beq_iff_eq] at blank
  obtain ((rfl | rfl) | rfl) | rfl := blank <;> decide

/-- Blanks and a word of punctuation end a string or a number. -/
theorem leads_expect {word : Bytes} (punctuation : word.all isPunctuation = true)
    (solid : word ≠ []) (calm : start.Calm)
    (read : expect word (skipBlanks input) = some rest) :
    Leads start input rest (· = .outside) := by
  unfold expect at read
  split at read
  case isFalse => contradiction
  case isTrue found =>
    cases read
    obtain ⟨others, split⟩ := List.isPrefixOf_iff_prefix.mp found
    have blanks : ∀ byte ∈ input.takeWhile isBlank, isPunctuation byte = true :=
      fun _ inside => punctuation_of_blank (List.mem_takeWhile_imp inside)
    refine ⟨input.takeWhile isBlank ++ word, ?_, ?_⟩
    · rw [List.append_assoc, ← split, List.drop_left, split]
      exact List.takeWhile_append_dropWhile
    · rw [after_append]
      cases word with
      | nil => exact absurd rfl solid
      | cons byte word =>
          have each := List.all_eq_true.mp punctuation
          rw [after_cons, (calm.after blanks).step (each byte List.mem_cons_self)]
          exact (after_plain fun other inside =>
            ((Bool.and_eq_true _ _).mp (each other (List.mem_cons_of_mem _ inside))).1).1

/-! ## Strings -/

theorem plain_of_hex {byte : UInt8} {digit : Nat} (hex : hexValue? byte = some digit) :
    isPlain byte = true := by
  simp only [isPlain, Bool.and_eq_true, bne_iff_ne]
  constructor
  · rintro rfl
    simp [hexValue?] at hex
  · rintro rfl
    simp [hexValue?] at hex

theorem plain_of_fromHex {first second third fourth : UInt8} {code : Nat}
    (read : fromHex? 4 [first, second, third, fourth] = some code) :
    ∀ byte ∈ [first, second, third, fourth], isPlain byte = true := by
  simp only [fromHex?] at read
  cases one : hexValue? first with
  | none => simp [one] at read
  | some a =>
      cases two : hexValue? second with
      | none => simp [one, two] at read
      | some b =>
          cases three : hexValue? third with
          | none => simp [one, two, three] at read
          | some c =>
              cases four : hexValue? fourth with
              | none => simp [one, two, three, four] at read
              | some d =>
                  simp [plain_of_hex one, plain_of_hex two, plain_of_hex three, plain_of_hex four]

/-- Four digits of an escape stay inside of the string. -/
theorem leads_hex {first second third fourth : UInt8} {code : Nat}
    (read : fromHex? 4 [first, second, third, fourth] = some code) :
    Leads .inside (first :: second :: third :: fourth :: rest) rest (· = .inside) :=
  ⟨_, rfl, (after_plain (plain_of_fromHex read)).2⟩

/-- The rest of a string whose first characters have been read. -/
theorem scanned_rest {value : Bytes} {build : Bytes × Bytes → Bytes}
    {result : Option (Bytes × Bytes)}
    (read : result.map (fun scanned => (build scanned, scanned.2)) = some (value, rest)) :
    ∃ inner, result = some (inner, rest) := by
  obtain ⟨⟨inner, left⟩, found, same⟩ := Option.map_eq_some_iff.mp read
  cases same
  exact ⟨inner, found⟩

/-- The string ends at the first quote that is not escaped. -/
theorem leads_scanString {value : Bytes} (read : scanString input = some (value, rest)) :
    Leads .inside input rest (· = .closed) := by
  fun_induction scanString input generalizing value with
  | case2 tail =>
      cases read
      exact Leads.cons ⟨[], rfl, rfl⟩
  | case4 byte tail notQuote control notSlash ih =>
      obtain ⟨inner, found⟩ := scanned_rest read
      apply Leads.cons
      rw [(step_plain (by simp [isPlain, notQuote, notSlash])).2]
      exact ih found
  | case7 byte notQuote control slash kind tail notUnicode letter unescaped ih =>
      obtain rfl : byte = 92 := by simpa using slash
      obtain ⟨inner, found⟩ := scanned_rest read
      exact .cons (.cons (ih found))
  | case9 byte notQuote control slash kind unicode first second third fourth tail code hex basic
      ih =>
      obtain rfl : byte = 92 := by simpa using slash
      obtain ⟨inner, found⟩ := scanned_rest read
      exact .cons (.cons ((leads_hex hex).trans (ih found)))
  | case11 byte notQuote control slash kind unicode first second third fourth code hex high
      backslash letter lowFirst lowSecond lowThird lowFourth tail low lowHex pair ih =>
      obtain rfl : byte = 92 := by simpa using slash
      obtain ⟨inner, found⟩ := scanned_rest read
      obtain ⟨rfl, rfl, -⟩ := pair
      exact .cons (.cons ((leads_hex hex).trans (.cons (.cons ((leads_hex lowHex).trans
        (ih found))))))
  | _ => contradiction

theorem leads_parseString {value : Bytes} (read : parseString input = some (value, rest)) :
    Leads .inside input rest (· = .closed) := by
  unfold parseString at read
  split at read
  · next found =>
      split at read
      · cases read
        exact leads_scanString found
      · contradiction
  · contradiction

/-! ## Numbers -/

theorem plain_of_digit {byte : UInt8} (digit : isDigit byte = true) : isPlain byte = true := by
  simp only [isPlain, Bool.and_eq_true, bne_iff_ne]
  constructor
  · rintro rfl
    exact absurd digit (by decide)
  · rintro rfl
    exact absurd digit (by decide)

theorem plain_digits : ∀ byte ∈ input.takeWhile isDigit, isPlain byte = true :=
  fun _ inside => plain_of_digit (List.mem_takeWhile_imp inside)

/-- What is cut off the input is plain. -/
def Cuts (input rest : Bytes) : Prop :=
  ∃ consumed, consumed ++ rest = input ∧ ∀ byte ∈ consumed, isPlain byte = true

theorem Cuts.leads (cuts : Cuts input rest) : Leads .outside input rest (· = .outside) := by
  obtain ⟨consumed, cut, plain⟩ := cuts
  exact ⟨consumed, cut, (after_plain plain).1⟩

theorem Cuts.trans (first : Cuts input middle) (second : Cuts middle rest) : Cuts input rest := by
  obtain ⟨early, rfl, plainEarly⟩ := first
  obtain ⟨late, rfl, plainLate⟩ := second
  refine ⟨early ++ late, by simp, fun byte inside => ?_⟩
  exact (List.mem_append.mp inside).elim (plainEarly byte) (plainLate byte)

theorem Cuts.refl : Cuts input input := ⟨[], rfl, by simp⟩

theorem cuts_digits : Cuts input (input.drop (input.takeWhile isDigit).length) := by
  exact ⟨_, List.prefix_iff_eq_append.mp (List.takeWhile_prefix isDigit), plain_digits⟩

theorem Cuts.cons {byte : UInt8} (plain : isPlain byte = true) : Cuts (byte :: input) input :=
  ⟨[byte], rfl, by simpa using plain⟩

theorem cuts_sign : Cuts input
    (input.drop ((input.take 1).filter fun byte => byte == 43 || byte == 45).length) := by
  cases input with
  | nil => exact Cuts.refl
  | cons byte rest =>
      rw [List.take_succ_cons, List.take_zero, List.filter_singleton]
      cases sign : byte == 43 || byte == 45 with
      | false => exact Cuts.refl
      | true =>
          apply Cuts.cons
          simp only [Bool.or_eq_true, beq_iff_eq] at sign
          obtain rfl | rfl := sign <;> decide

theorem cuts_scanFraction {fraction : Bytes} (read : scanFraction input = some (fraction, rest)) :
    Cuts input rest := by
  simp only [scanFraction] at read
  split at read
  · contradiction
  · next early middle found =>
      have first : Cuts input middle := by
        split at found
        · next tail =>
            split at found
            · contradiction
            · cases found
              exact .trans (.cons (by decide)) cuts_digits
        · cases found
          exact Cuts.refl
      apply first.trans
      split at read
      · next mark tail =>
          split at read
          · next exponent =>
              split at read
              · contradiction
              · cases read
                rw [← List.drop_drop]
                have plain : isPlain mark = true := by
                  obtain rfl | rfl := exponent <;> decide
                exact (Cuts.cons plain).trans (cuts_sign.trans cuts_digits)
          · cases read
            exact Cuts.refl
      · cases read
        exact Cuts.refl

theorem cuts_parseUnsigned {negative : Bool} {value : Json}
    (read : parseUnsigned negative input = some (value, rest)) : Cuts input rest := by
  simp only [parseUnsigned] at read
  split at read
  · contradiction
  · split at read
    · contradiction
    · next found =>
        cases read
        exact cuts_digits.trans (cuts_scanFraction found)
    · next found =>
        cases read
        exact cuts_digits.trans (cuts_scanFraction found)

theorem cuts_parseNumber {value : Json} (read : parseNumber input = some (value, rest)) :
    Cuts input rest := by
  unfold parseNumber at read
  split at read
  · contradiction
  · split at read
    · next sign =>
        subst sign
        exact .trans (.cons (by decide)) (cuts_parseUnsigned read)
    · exact cuts_parseUnsigned read

/-! ## Values -/

/-- The parser with so much fuel never stops inside of a string. -/
structure Settles (fuel : Nat) : Prop where
  value : ∀ {input rest value}, parseValue fuel input = some (value, rest) →
    Leads .outside input rest Calm
  items : ∀ {input rest items}, parseItems fuel input = some (items, rest) →
    Leads .outside input rest (· = .outside)
  members : ∀ {input rest members}, parseMembers fuel input = some (members, rest) →
    Leads .outside input rest (· = .outside)

theorem cuts_expect {word : Bytes} (plain : word.all isPlain = true)
    (read : expect word input = some rest) : Cuts input rest := by
  unfold expect at read
  split at read
  · next found =>
      cases read
      exact ⟨word, List.prefix_iff_eq_append.mp (List.isPrefixOf_iff_prefix.mp found),
        List.all_eq_true.mp plain⟩
  · contradiction

theorem leads_blanks : Leads .outside input (skipBlanks input) (· = .outside) := by
  refine ⟨input.takeWhile isBlank, List.takeWhile_append_dropWhile, (after_plain ?_).1⟩
  intro byte inside
  exact ((Bool.and_eq_true _ _).mp (punctuation_of_blank (List.mem_takeWhile_imp inside))).1

theorem Settles.succ_value {fuel : Nat} (settles : Settles fuel) {value : Json}
    (read : parseValue (fuel + 1) input = some (value, rest)) : Leads .outside input rest Calm := by
  have outside : ∀ {input : Bytes}, Leads .outside input rest (· = .outside) →
      Leads .outside input rest Calm := fun led => led.weaken fun _ => .inl
  apply leads_blanks.trans
  simp only [parseValue] at read
  split at read
  · contradiction
  · next byte tail skipped =>
      rw [skipped]
      split at read
      · next quote =>
          subst quote
          obtain ⟨⟨text, left⟩, found, same⟩ := Option.map_eq_some_iff.mp read
          cases same
          exact .cons ((leads_parseString found).weaken fun _ => .inr)
      · split at read
        · next bracket =>
            subst bracket
            apply Leads.cons
            split at read
            · next found =>
                cases read
                exact outside (leads_expect (by decide) (by decide) (.inl rfl) found)
            · obtain ⟨⟨items, left⟩, found, same⟩ := Option.map_eq_some_iff.mp read
              cases same
              exact outside (settles.items found)
        · split at read
          · next brace =>
              subst brace
              apply Leads.cons
              split at read
              · next found =>
                  cases read
                  exact outside (leads_expect (by decide) (by decide) (.inl rfl) found)
              · obtain ⟨⟨members, left⟩, found, same⟩ := Option.map_eq_some_iff.mp read
                cases same
                exact outside (settles.members found)
          · split at read
            · next letter =>
                subst letter
                obtain ⟨left, found, same⟩ := Option.map_eq_some_iff.mp read
                cases same
                exact .cons (outside (cuts_expect (by decide) found).leads)
            · split at read
              · next letter =>
                  subst letter
                  obtain ⟨left, found, same⟩ := Option.map_eq_some_iff.mp read
                  cases same
                  exact .cons (outside (cuts_expect (by decide) found).leads)
              · split at read
                · next letter =>
                    subst letter
                    obtain ⟨left, found, same⟩ := Option.map_eq_some_iff.mp read
                    cases same
                    exact .cons (outside (cuts_expect (by decide) found).leads)
                · exact outside (cuts_parseNumber read).leads

/-- After a value comes punctuation. -/
theorem Settles.then_expect {fuel : Nat} (settles : Settles fuel) {value : Json} {byte : UInt8}
    (read : parseValue fuel input = some (value, middle))
    (punctuation : isPunctuation byte = true)
    (found : expect [byte] (skipBlanks middle) = some rest) :
    Leads .outside input rest (· = .outside) := by
  obtain ⟨consumed, cut, calm⟩ := settles.value read
  have early : Leads .outside input middle (· = outside.after consumed) := ⟨consumed, cut, rfl⟩
  exact early.trans (leads_expect (by simpa using punctuation) (by simp) calm found)

theorem Settles.succ_items {fuel : Nat} (settles : Settles fuel) {items : List Json}
    (read : parseItems (fuel + 1) input = some (items, rest)) :
    Leads .outside input rest (· = .outside) := by
  simp only [parseItems] at read
  split at read
  · contradiction
  · next item middle item? =>
      split at read
      · next left found =>
          cases read
          exact settles.then_expect item? (by decide) found
      · next left notClosing found =>
          obtain ⟨⟨items, last⟩, others, same⟩ := Option.map_eq_some_iff.mp read
          cases same
          exact (settles.then_expect item? (by decide) found).trans (settles.items others)
      · contradiction

/-- The quote at the beginning of a key. -/
theorem leads_quote (read : expect [34] (skipBlanks input) = some rest) :
    Leads .outside input rest (· = .inside) := by
  apply leads_blanks.trans
  unfold expect at read
  split at read
  · next found =>
      obtain ⟨others, split⟩ := List.isPrefixOf_iff_prefix.mp found
      rw [← split] at read ⊢
      cases read
      exact ⟨[34], rfl, rfl⟩
  · contradiction

theorem Settles.succ_members {fuel : Nat} (settles : Settles fuel) {members : List (Bytes × Json)}
    (read : parseMembers (fuel + 1) input = some (members, rest)) :
    Leads .outside input rest (· = .outside) := by
  simp only [parseMembers] at read
  split at read
  · contradiction
  · next afterQuote quote =>
      apply (leads_quote quote).trans
      split at read
      · contradiction
      · next key afterKey key? =>
          apply (leads_parseString key?).trans
          split at read
          · contradiction
          · next afterColon colon =>
              apply (leads_expect (by decide) (by decide) (.inr rfl) colon).trans
              split at read
              · contradiction
              · next value afterValue value? =>
                  split at read
                  · next left found =>
                      cases read
                      exact settles.then_expect value? (by decide) found
                  · next left notClosing found =>
                      obtain ⟨⟨others, last⟩, more, same⟩ := Option.map_eq_some_iff.mp read
                      cases same
                      exact (settles.then_expect value? (by decide) found).trans
                        (settles.members more)
                  · contradiction

theorem settles (fuel : Nat) : Settles fuel := by
  induction fuel with
  | zero => constructor <;> intro _ _ _ read <;> cases read
  | succ fuel ih => exact ⟨ih.succ_value, ih.succ_items, ih.succ_members⟩

/-- A text that is accepted has its strings closed. -/
theorem calm_of_parse {text : Bytes} {value : Json} (read : parse text = some value) :
    (outside.after text).Calm := by
  unfold parse at read
  split at read
  · next left found =>
      obtain ⟨consumed, rfl, calm⟩ := (settles _).value found
      split at read
      · next blank =>
          rw [after_append]
          apply calm.after
          intro byte inside
          apply punctuation_of_blank
          exact List.dropWhile_eq_nil_iff.mp (List.isEmpty_iff.mp blank) byte inside
      · contradiction
  · contradiction

theorem quote_mem_members {fuel : Nat} {members : List (Bytes × Json)}
    (read : parseMembers fuel input = some (members, rest)) : 34 ∈ input := by
  cases fuel with
  | zero => cases read
  | succ fuel =>
      simp only [parseMembers] at read
      split at read
      · contradiction
      · next afterQuote quote =>
          unfold expect at quote
          split at quote
          · next found =>
              have first := (List.isPrefixOf_iff_prefix.mp found).subset (List.mem_singleton_self 34)
              exact (List.dropWhile_suffix _).subset first
          · contradiction

theorem parseNumber_not_object {members : List (Bytes × Json)} :
    parseNumber input ≠ some (.object members, rest) := by
  have unsigned {negative : Bool} {input : Bytes} :
      parseUnsigned negative input ≠ some (.object members, rest) := by
    intro read
    simp only [parseUnsigned] at read
    split at read
    · contradiction
    · split at read <;> cases read
  intro read
  unfold parseNumber at read
  split at read
  · contradiction
  · split at read
    · exact unsigned read
    · exact unsigned read

/-- The keys of an object are quoted. -/
theorem quote_mem_of_parseValue {fuel : Nat} {members : List (Bytes × Json)}
    (nonempty : members ≠ []) (read : parseValue fuel input = some (.object members, rest)) :
    34 ∈ input := by
  cases fuel with
  | zero => cases read
  | succ fuel =>
      simp only [parseValue] at read
      split at read
      · contradiction
      · next byte tail skipped =>
          apply (List.dropWhile_suffix isBlank).subset
          change 34 ∈ skipBlanks input
          rw [skipped]
          apply List.mem_cons_of_mem
          split at read
          · simp at read
          · split at read
            · split at read <;> simp at read
            · split at read
              · split at read
                · simp only [Option.some.injEq, Prod.mk.injEq, object.injEq] at read
                  exact absurd read.1.symm nonempty
                · obtain ⟨parsed, found, -⟩ := Option.map_eq_some_iff.mp read
                  exact quote_mem_members found
              · split at read
                · simp at read
                · split at read
                  · simp at read
                  · split at read
                    · simp at read
                    · exact absurd read parseNumber_not_object

theorem quote_mem_of_parse {text : Bytes} {members : List (Bytes × Json)} (nonempty : members ≠ [])
    (read : parse text = some (.object members)) : 34 ∈ text := by
  unfold parse at read
  split at read
  · next value left found =>
      split at read
      · cases read
        exact quote_mem_of_parseValue nonempty found
      · contradiction
  · contradiction

end Parsing

/-! ## What is written -/

section Rendering

open Quoting

theorem plain_hexDigit {digit : UInt8} (small : digit < 16) : isPlain (hexDigit digit) = true := by
  simp only [isPlain, Bool.and_eq_true, bne_iff_ne, hexDigit]
  grind

/-- A byte is escaped with a backslash, or stands for itself. -/
theorem escape_cases (byte : UInt8) :
    (∃ letter rest, escape byte = 92 :: letter :: rest ∧ ∀ other ∈ rest, isPlain other = true) ∨
      escape byte = [byte] ∧ isPlain byte = true := by
  unfold escape
  cases short : shortEscape byte with
  | some letter => exact .inl ⟨letter, [], rfl, by simp⟩
  | none =>
      obtain ⟨notQuote, notSlash⟩ := not_shortEscape short
      by_cases control : byte < 32
      · have high : isPlain (hexDigit (byte / 16)) = true := plain_hexDigit (by grind)
        have low : isPlain (hexDigit (byte % 16)) = true := plain_hexDigit (by grind)
        have zero : isPlain 48 = true := by decide
        exact .inl ⟨117, _, if_pos control, by simp [high, low, zero]⟩
      · exact .inr ⟨if_neg control, by simp [isPlain, notQuote, notSlash]⟩

/-- The text of a string never leaves the string. -/
theorem inside_escapes (value : Bytes) : inside.after (value.flatMap escape) = .inside := by
  induction value with
  | nil => rfl
  | cons byte value ih =>
      have stays : inside.after (escape byte) = .inside := by
        obtain ⟨letter, rest, escaped, plain⟩ | ⟨itself, plain⟩ := escape_cases byte
        · rw [escaped]
          exact (after_plain plain).2
        · rw [itself]
          exact (step_plain plain).2
      rw [List.flatMap_cons, after_append, stays, ih]

/-- Out of place it is broken, or does not hold a quote. -/
theorem outside_escapes (value : Bytes) :
    outside.after (value.flatMap escape) = .broken ∨
      outside.after (value.flatMap escape) = .outside ∧ 34 ∉ value.flatMap escape := by
  induction value with
  | nil => exact .inr ⟨rfl, by simp⟩
  | cons byte value ih =>
      rw [List.flatMap_cons, after_append]
      obtain ⟨letter, rest, escaped, plain⟩ | ⟨itself, plain⟩ := escape_cases byte
      · have breaks : outside.step 92 = .broken := rfl
        rw [escaped, after_cons, breaks, after_broken, after_broken]
        exact .inl rfl
      · rw [itself, after_cons, after_nil, (step_plain plain).1]
        have other : 34 ≠ byte := by
          rintro rfl
          exact absurd plain (by decide)
        obtain broken | ⟨outside, unquoted⟩ := ih
        · exact .inl broken
        · exact .inr ⟨outside, by simpa [other] using unquoted⟩

end Rendering

end JVLinkServer.Json
