import Mathlib.Data.List.Forall2
import Stockroom.Proofs.Tokens
import Stockroom.Proofs.Validated

/-!
# Commands written out

A command is written as its words in any letter case, with any blanks between them, followed by its arguments, each with
one or more spaces in front (`Command.Written`).  Numbers may have leading zeros, and a plus if they are not negative
(`Numeral`).  Every line of that form is read as exactly that command (`parse_of_written`).

What is particular to a command is only what it holds (`Command.arguments`): whatever text it came from, tokens that
read as these values make the command (`parse_of_tokens`).
-/

namespace Stockroom

open Text

/-! ### Numbers -/

/-- A way to write a number. -/
inductive Numeral : Int → List Char → Prop
  | plain (n zeros : Nat) : Numeral n (List.replicate zeros '0' ++ digits n)
  | plus (n zeros : Nat) : Numeral n ('+' :: (List.replicate zeros '0' ++ digits n))
  | minus (n zeros : Nat) (hpos : 0 < n) : Numeral (-n) ('-' :: (List.replicate zeros '0' ++ digits n))

private theorem digitsValue_zeros_append (zeros : Nat) (l : List Char) :
    digitsValue (List.replicate zeros '0' ++ l) = digitsValue l := by
  induction zeros with
  | zero => rfl
  | succ zeros ih =>
    rw [List.replicate_succ, List.cons_append]
    exact ih

private theorem isDigit_of_mem_run {zeros n : Nat} {c : Char} (hc : c ∈ List.replicate zeros '0' ++ digits n) :
    isDigit c = true := by
  rcases List.mem_append.1 hc with hc | hc
  · rw [List.eq_of_mem_replicate hc]
    decide
  · exact isDigit_of_mem_digits hc

theorem isBlank_of_isDigit {c : Char} (h : isDigit c = true) : isBlank c = false := by
  simp only [isDigit, Bool.and_eq_true, decide_eq_true_eq] at h
  have h0 : '0'.toNat = 48 := rfl
  have h9 : '9'.toNat = 57 := rfl
  simp only [isBlank, Bool.or_eq_false_iff, Bool.and_eq_false_iff, decide_eq_false_iff_not, beq_eq_false_iff_ne]
  omega

/-- A number is read up to the end of its digits, if it is not too large. -/
theorem readNumber_run {sign run rest : List Char} (hsign : sign = [] ∨ sign = ['+'] ∨ sign = ['-'])
    (hne : run ≠ []) (hrun : ∀ c ∈ run, isDigit c = true) (hrest : ∀ c, rest.head? = some c → isDigit c = false) :
    readNumber (sign ++ run ++ rest) =
      if digitsValue run ≤ maxNumber then some (if sign = ['-'] then -(digitsValue run : Int) else digitsValue run)
      else none := by
  obtain ⟨d, ds, rfl⟩ := List.exists_cons_of_ne_nil hne
  have hd : isDigit d = true := hrun d List.mem_cons_self
  -- the run ends where the rest begins, and its first digit is no sign
  have htake : (d :: ds ++ rest).takeWhile isDigit = d :: ds := by
    rw [List.takeWhile_append_of_pos hrun]
    cases rest with
    | nil => simp
    | cons c rest => simp [hrest c rfl]
  have hdplus : d ≠ '+' := by
    rintro rfl
    exact absurd hd (by decide)
  have hdminus : d ≠ '-' := by
    rintro rfl
    exact absurd hd (by decide)
  rcases hsign with rfl | rfl | rfl
  · have hstart : trimStart (d :: ds ++ rest) = d :: ds ++ rest := by
      simp [trimStart, isBlank_of_isDigit hd]
    have hafter : afterSign (d :: ds ++ rest) = d :: ds ++ rest := by
      simp [afterSign, hdplus, hdminus]
    simp only [List.nil_append, readNumber, hstart, hafter, htake]
    simp [hdminus]
  · have hstart : trimStart (['+'] ++ (d :: ds) ++ rest) = '+' :: (d :: ds ++ rest) := by
      have hblank : isBlank '+' = false := by decide
      simp [trimStart, hblank]
    simp only [readNumber, hstart, afterSign, htake]
    simp
  · have hstart : trimStart (['-'] ++ (d :: ds) ++ rest) = '-' :: (d :: ds ++ rest) := by
      have hblank : isBlank '-' = false := by decide
      simp [trimStart, hblank]
    simp only [readNumber, hstart, afterSign, htake]
    simp

namespace Numeral

variable {n : Int} {token : List Char}

/-- A numeral is a sign and digits with the value of the number. -/
private theorem exists_run (h : Numeral n token) :
    ∃ sign run, token = sign ++ run ∧ (sign = [] ∨ sign = ['+'] ∨ sign = ['-']) ∧ run ≠ [] ∧
      (∀ c ∈ run, isDigit c = true) ∧ digitsValue run = n.natAbs ∧
      (if sign = ['-'] then -(digitsValue run : Int) else digitsValue run) = n := by
  have hrun (m zeros : Nat) : List.replicate zeros '0' ++ digits m ≠ [] ∧
      (∀ c ∈ List.replicate zeros '0' ++ digits m, isDigit c = true) ∧
      digitsValue (List.replicate zeros '0' ++ digits m) = m := by
    refine ⟨?_, fun c hc => isDigit_of_mem_run hc, ?_⟩
    · simp [digits_ne_nil]
    · rw [digitsValue_zeros_append, digitsValue_digits]
  cases h with
  | plain m zeros =>
    obtain ⟨hne, hdigits, hvalue⟩ := hrun m zeros
    exact ⟨[], _, rfl, .inl rfl, hne, hdigits, hvalue, by simp [hvalue]⟩
  | plus m zeros =>
    obtain ⟨hne, hdigits, hvalue⟩ := hrun m zeros
    exact ⟨['+'], _, rfl, .inr (.inl rfl), hne, hdigits, hvalue, by simp [hvalue]⟩
  | minus m zeros hpos =>
    obtain ⟨hne, hdigits, hvalue⟩ := hrun m zeros
    exact ⟨['-'], _, rfl, .inr (.inr rfl), hne, hdigits, by simp [hvalue], by simp [hvalue]⟩

theorem readNumber_append (h : Numeral n token) (hmax : n.natAbs ≤ maxNumber) {rest : List Char}
    (hrest : ∀ c, rest.head? = some c → isDigit c = false) : readNumber (token ++ rest) = some n := by
  obtain ⟨sign, run, rfl, hsign, hne, hrun, hvalue, heq⟩ := h.exists_run
  rw [readNumber_run hsign hne hrun hrest, if_pos (by omega), heq]

theorem isWord (h : Numeral n token) : IsWord token ∧ '"' ∉ token := by
  obtain ⟨sign, run, rfl, hsign, hne, hrun, -, -⟩ := h.exists_run
  have hrunQuote : '"' ∉ run := by
    intro hmem
    exact absurd (hrun '"' hmem) (by decide)
  refine ⟨⟨by simp [hne], ?_⟩, ?_⟩
  · intro c hc
    rcases List.mem_append.1 hc with hc | hc
    · rcases hsign with rfl | rfl | rfl
      · cases hc
      · rw [List.mem_singleton.1 hc]
        decide
      · rw [List.mem_singleton.1 hc]
        decide
    · exact isBlank_of_isDigit (hrun c hc)
  · rcases hsign with rfl | rfl | rfl <;> simp [hrunQuote]

end Numeral

/-! ### What a command holds -/

namespace Command

def operation : Command → Operation
  | addProduct .. => .addProduct
  | addWarehouse .. => .addWarehouse
  | stock .. => .stock
  | unstock .. => .unstock
  | listProducts => .listProducts
  | listWarehouses => .listWarehouses
  | listWarehouse .. => .listWarehouse

/-- The values of a command in the order of its parameters. -/
def arguments : Command → List Value
  | addProduct name sku => [.text name, .text sku]
  | addWarehouse number limit => .number number :: (limit.map Value.number).toList
  | stock sku warehouse quantity => [.text sku, .number warehouse, .number quantity]
  | unstock sku warehouse quantity => [.text sku, .number warehouse, .number quantity]
  | listProducts => []
  | listWarehouses => []
  | listWarehouse warehouse => [.number warehouse]

end Command

/-- Values of the types that the parameters ask for, up to optional ones at the end. -/
inductive Fits : List Parameter → List Value → Prop
  | done {ps : List Parameter} (h : ∀ p ∈ ps, p.required = false) : Fits ps []
  | cons {p : Parameter} {v : Value} {ps : List Parameter} {vs : List Value} (htype : v.type = p.type)
      (hrest : Fits ps vs) : Fits (p :: ps) (v :: vs)

theorem Command.fits (c : Command) : Fits c.operation.definition.parameters c.arguments := by
  have hnone : ∀ p ∈ ([] : List Parameter), p.required = false := List.forall_mem_nil _
  cases c with
  | addProduct | stock | unstock | listProducts | listWarehouses | listWarehouse =>
    repeat' first | exact .done hnone | refine .cons rfl ?_
  | addWarehouse number limit =>
    cases limit with
    | none => exact .cons rfl (.done (by decide))
    | some limit => exact .cons rfl (.cons rfl (.done hnone))

/-- Putting the values together again. -/
theorem Command.ofArguments_arguments (c : Command) :
    Command.ofArguments c.operation
      ⟨List.zipWith (fun p v => (p.name, v)) c.operation.definition.parameters c.arguments⟩ = .ok c := by
  cases c with
  | addWarehouse number limit => cases limit <;> rfl
  | addProduct | stock | unstock | listProducts | listWarehouses | listWarehouse => rfl

/-- Tokens that read as the values pass the check of the parameters. -/
private theorem checkArguments_of_read {ps : List Parameter} {vs : List Value} {tokens : List String}
    (hfits : Fits ps vs) (hread : List.Forall₂ (fun v token => v.type.read token = some v) vs tokens) :
    checkArguments ps tokens = List.zipWith (fun p v => .valid p.name v) ps vs := by
  induction hfits generalizing tokens with
  | @done ps h =>
    -- optional parameters without a token leave no trace
    cases hread
    induction ps with
    | nil => rfl
    | cons p ps ih =>
      rw [List.forall_mem_cons] at h
      rw [checkArguments, h.1, if_neg Bool.false_ne_true, ih h.2]
      simp
  | @cons p v ps vs htype hrest ih =>
    cases hread with
    | @cons _ token _ tokens hv hvs =>
      have hcheck : p.check token = .valid p.name v := by
        rw [Parameter.check, ← htype, hv]
      rw [checkArguments, hcheck, ih hvs]
      rfl

theorem ofChecked_valid (ps : List Parameter) (vs : List Value) :
    Arguments.ofChecked (List.zipWith (fun p v => .valid p.name v) ps vs) =
      .ok ⟨List.zipWith (fun p v => (p.name, v)) ps vs⟩ := by
  have hall : (List.zipWith (fun (p : Parameter) v => Checked.valid p.name v) ps vs).all Checked.isValid = true := by
    rw [List.all_eq_true]
    intro r hr
    rw [← List.map_uncurry_zip_eq_zipWith, List.mem_map] at hr
    obtain ⟨-, -, rfl⟩ := hr
    rfl
  have hget : (List.zipWith (fun (p : Parameter) v => Checked.valid p.name v) ps vs).filterMap Checked.get? =
      List.zipWith (fun p v => (p.name, v)) ps vs := by
    rw [← List.map_uncurry_zip_eq_zipWith, ← List.map_uncurry_zip_eq_zipWith, List.filterMap_map]
    change List.filterMap (some ∘ Function.uncurry fun (p : Parameter) v => (p.name, v)) (ps.zip vs) = _
    rw [List.filterMap_eq_map]
  rw [Arguments.ofChecked, if_pos hall, hget]

/-! ### Lines that hold a command -/

/-- Behind a spelling of the words of an operation, everything is left for its arguments. -/
theorem parse_of_spelled {line : String} {op : Operation} {l rest : List Char}
    (hline : settleQuotes line.toList = l ++ rest) (hl : Spelled op.definition.words l) (hrest : Breaks rest) :
    Command.parse line = (do
      let args ← readArguments op.definition.parameters (dropBlank rest)
      Command.ofArguments op args) := by
  have hop : op.definition.operation = op := op.operation_definition
  rw [Command.parse, hline, matchCommand_of_spelled hl hrest]
  simp only [bind, Except.bind, hop]

/-- A line is read as the command whose values its tokens have. -/
theorem parse_of_tokens {c : Command} {line : String} {l rest : List Char}
    (hline : settleQuotes line.toList = l ++ rest) (hl : Spelled c.operation.definition.words l) (hrest : Breaks rest)
    (hread : List.Forall₂ (fun v token => v.type.read token = some v) c.arguments
      ((tokens (dropBlank rest)).map String.ofList)) : Command.parse line = .ok c := by
  have hargs : readArguments c.operation.definition.parameters (dropBlank rest) =
      .ok ⟨List.zipWith (fun p v => (p.name, v)) c.operation.definition.parameters c.arguments⟩ := by
    rw [readArguments_eq, checkArguments_of_read c.fits hread, ofChecked_valid]
  rw [parse_of_spelled hline hl hrest, hargs]
  exact c.ofArguments_arguments

/-! ### Commands in their usage form -/

/-- A token that holds a value: a text without blanks and quotes, or a number. -/
def Value.Written : Value → List Char → Prop
  | .text s, token => s.toList = token ∧ IsWord token ∧ '"' ∉ token
  | .number n, token => Numeral n token ∧ n.natAbs ≤ maxNumber

namespace Value.Written

variable {v : Value} {token : List Char}

theorem isWord (h : v.Written token) : IsWord token := by
  cases v with
  | text s => exact h.2.1
  | number n => exact h.1.isWord.1

theorem not_mem_quote (h : v.Written token) : '"' ∉ token := by
  cases v with
  | text s => exact h.2.2
  | number n => exact h.1.isWord.2

theorem read_eq (h : v.Written token) : v.type.read (String.ofList token) = some v := by
  cases v with
  | text s => rw [← h.1, String.ofList_toList]; rfl
  | number n =>
    have hread : readNumber (token ++ []) = some n := h.1.readNumber_append h.2 (fun c hc => by cases hc)
    rw [List.append_nil] at hread
    simp [Value.type, ParameterType.read, hread]

end Value.Written

/-- Values written one after another, each with one or more spaces in front. -/
inductive Listed : List Value → List Char → Prop
  | nil : Listed [] []
  | cons {v : Value} {vs : List Value} {token rest : List Char} (n : Nat) (hv : v.Written token)
      (hrest : Listed vs rest) : Listed (v :: vs) (List.replicate (n + 1) ' ' ++ token ++ rest)

namespace Listed

variable {vs : List Value} {args : List Char}

theorem not_mem_quote (h : Listed vs args) : '"' ∉ args := by
  induction h with
  | nil => exact List.not_mem_nil
  | cons n hv hrest ih => simp [hv.not_mem_quote, ih]

theorem breaks (h : Listed vs args) : Breaks args := by
  cases h with
  | nil => exact blank_nil.breaks
  | cons n hv hrest =>
    rw [List.replicate_succ]
    exact breaks_cons isBlank_space _

theorem tight (h : Listed vs args) {l : List Char} (hl : Tight l) : Tight (l ++ args) := by
  induction h generalizing l with
  | nil => simpa using hl
  | @cons v vs token rest n hv hrest ih =>
    -- the text up to the first token is tight again, so the others can follow it
    have hfirst : Tight (l ++ List.replicate (n + 1) ' ' ++ token) := hl.append hv.isWord.tight _
    have hall := ih hfirst
    simpa only [List.append_assoc] using hall

/-- A token ends where the next value begins. -/
private theorem tokens_word_append (h : Listed vs args) {w : List Char} (hw : IsWord w) (hquote : '"' ∉ w) :
    tokens (w ++ args) = w :: tokens (dropBlank args) := by
  have hword : tokens w = [w] := tokens_word hw hquote
  cases h with
  | nil => rw [List.append_nil, hword]; rfl
  | @cons v vs token rest n hv hrest =>
    have hafter : '"' ∉ List.replicate n ' ' ++ token ++ rest := by simp [hv.not_mem_quote, hrest.not_mem_quote]
    have hcut : tokens (w ++ ' ' :: (List.replicate n ' ' ++ token ++ rest)) =
        tokens w ++ tokens (List.replicate n ' ' ++ token ++ rest) := tokens_append_space hquote hafter
    have hdrop : dropBlank (' ' :: (List.replicate n ' ' ++ token ++ rest)) =
        List.replicate n ' ' ++ token ++ rest := by
      rw [dropBlank, if_pos isBlank_space]
    rw [List.replicate_succ, List.cons_append, List.cons_append, hcut, hword, hdrop]
    rfl

/-- The tokens read as the values. -/
theorem tokens_read (h : Listed vs args) :
    List.Forall₂ (fun v token => v.type.read token = some v) vs ((tokens (dropBlank args)).map String.ofList) := by
  induction h with
  | nil => exact .nil
  | @cons v vs token rest n hv hrest ih =>
    have hafter : '"' ∉ token ++ rest := by simp [hv.not_mem_quote, hrest.not_mem_quote]
    have hdrop : dropBlank (List.replicate (n + 1) ' ' ++ token ++ rest) = List.replicate n ' ' ++ (token ++ rest) := by
      rw [List.replicate_succ, List.append_assoc, List.cons_append, dropBlank, if_pos isBlank_space]
    rw [hdrop, tokens_spaces_append hafter, hrest.tokens_word_append hv.isWord hv.not_mem_quote, List.map_cons]
    exact .cons hv.read_eq ih

end Listed

/-- A command in its usage form: the words of the command, its values, and blanks around them. -/
inductive Command.Written (c : Command) : List Char → Prop
  | intro {lead words args trail : List Char} (hlead : Blank lead) (hwords : Spelled c.operation.definition.words words)
      (hargs : Listed c.arguments args) (htrail : Blank trail) : c.Written (lead ++ (words ++ args) ++ trail)

/-- A command in its usage form is read as that command. -/
theorem parse_of_written {c : Command} {line : String} (h : c.Written line.toList) : Command.parse line = .ok c := by
  generalize hline : line.toList = l at h
  obtain @⟨lead, words, args, trail, hlead, hwords, hargs, htrail⟩ := h
  have htight : Tight (words ++ args) := hargs.tight (hwords.tight c.operation.isCommandWord)
  have hquote : '"' ∉ words ++ args := by
    simp [hwords.not_mem_quote c.operation.isCommandWord, hargs.not_mem_quote]
  have hsettle : settleQuotes line.toList = words ++ args := by
    rw [hline, settleQuotes, trim_around hlead htrail, htight.trim_eq, softenInner_of_not_mem hquote]
  exact parse_of_tokens hsettle hwords hargs.breaks hargs.tokens_read

theorem parse_of_written_addWarehouse :
    (Command.addWarehouse (-7) (some 12)).Written "\t aDD\u3000 wAREHOUSE   -007  +0012 \n".toList ∧
      Command.parse "\t aDD\u3000 wAREHOUSE   -007  +0012 \n" = .ok (.addWarehouse (-7) (some 12)) := by
  have hlead : Blank ['\t', ' '] := List.all_eq_true.1 (by decide)
  have htrail : Blank [' ', '\n'] := List.all_eq_true.1 (by decide)
  have hwords : Spelled ["ADD", "WAREHOUSE"] ("aDD".toList ++ "\u3000 ".toList ++ "wAREHOUSE".toList) :=
    .cons (by decide) (by decide) (List.all_eq_true.1 (by decide)) (.last (by decide))
  have hnumber : Numeral (-7) ('-' :: (List.replicate 2 '0' ++ digits 7)) := .minus 7 2 (by decide)
  have hlimit : Numeral 12 ('+' :: (List.replicate 2 '0' ++ digits 12)) := .plus 12 2
  have hseven : digits 7 = ['7'] := by simp [digits, digitChar]
  have htwelve : digits 12 = ['1', '2'] := by simp [digits, digitChar]
  rw [hseven] at hnumber
  rw [htwelve] at hlimit
  have hargs : Listed [.number (-7), .number 12] _ := .cons 2 ⟨hnumber, by decide⟩ (.cons 1 ⟨hlimit, by decide⟩ .nil)
  have hwritten : (Command.addWarehouse (-7) (some 12)).Written "\t aDD\u3000 wAREHOUSE   -007  +0012 \n".toList :=
    .intro (c := .addWarehouse (-7) (some 12)) hlead hwords hargs htrail
  exact ⟨hwritten, parse_of_written hwritten⟩

end Stockroom
