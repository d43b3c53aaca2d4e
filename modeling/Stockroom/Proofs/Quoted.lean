import Stockroom.Proofs.Written

/-!
# Quoted arguments

A name in quotes may hold any text that is not blank, quotes included, and it may begin and end with blanks
(`parse_quotedName`).  Behind a closing quote only one argument is cut off: a text without a quote in it is one token
however many spaces it has.  So a SKU may be quoted where it comes last.  In front of two numbers it may not, and such
a SKU is stocked by quoting the first of them instead (`parse_quotedSku`).
-/

namespace Stockroom

open Text

/-! ### Settling a line with quotes -/

private theorem trimEnd_quote_cons (l : List Char) : trimEnd ('"' :: l) = '"' :: trimEnd l := by
  by_cases h : trimEnd l = []
  · have hquote : trimEnd ['"'] = ['"'] := by decide
    have hblank : trimEnd (['"'] ++ l) = trimEnd ['"'] := trimEnd_append_of_blank (trimEnd_eq_nil_iff.1 h) ['"']
    rw [h, ← hquote]
    exact hblank
  · exact trimEnd_append_of_ne h ['"']

/-- Settling keeps what stands before the first and behind the last quote, up to blanks at the end. -/
theorem settleQuotes_quoted {c : Char} {before inner after : List Char} (hc : isBlank c = false)
    (hbefore : '"' ∉ c :: before) (hafter : '"' ∉ after) :
    settleQuotes (c :: before ++ '"' :: (inner ++ '"' :: after)) =
      c :: before ++ '"' :: (soften inner ++ '"' :: trimEnd after) := by
  have hstart : trimStart (c :: before ++ '"' :: (inner ++ '"' :: after)) =
      c :: before ++ '"' :: (inner ++ '"' :: after) := by
    simp [trimStart, hc]
  have hend : trimEnd (c :: before ++ '"' :: (inner ++ '"' :: after)) =
      c :: before ++ '"' :: (inner ++ '"' :: trimEnd after) := by
    have hlast : trimEnd ('"' :: after) ≠ [] := by simp [trimEnd_quote_cons]
    have hsplit := trimEnd_append_of_ne hlast (c :: before ++ '"' :: inner)
    rw [trimEnd_quote_cons] at hsplit
    simpa using hsplit
  have hafterEnd : '"' ∉ trimEnd after := fun h => hafter (mem_of_mem_trimEnd h)
  rw [settleQuotes, trim, hstart, hend, softenInner_quoted hbefore hafterEnd]

/-! ### Names of products -/

private theorem spelled_addProduct : Spelled Operation.addProduct.definition.words "ADD PRODUCT".toList := by
  have h : Spelled ["ADD", "PRODUCT"] ("ADD".toList ++ " ".toList ++ "PRODUCT".toList) :=
    .cons (by decide) (by decide) (blank_spaces 1) (.last (by decide))
  exact h

/-- A name in quotes is trimmed, and its own quotes become apostrophes. -/
theorem parse_quotedName {name sku : String} (hname : trim name.toList ≠ []) (hsku : trim sku.toList ≠ [])
    (hquote : '"' ∉ sku.toList) :
    Command.parse ("ADD PRODUCT \"" ++ name ++ "\" " ++ sku) =
      .ok (.addProduct (String.ofList (trim (soften name.toList))) (String.ofList (trim sku.toList))) := by
  have hend : trimEnd (' ' :: sku.toList) = ' ' :: trimEnd sku.toList := by
    have hne : trimEnd sku.toList ≠ [] := fun h => hsku (trim_eq_nil_iff.2 (trimEnd_eq_nil_iff.1 h))
    exact trimEnd_append_of_ne hne [' ']
  have hsettle : settleQuotes ("ADD PRODUCT \"" ++ name ++ "\" " ++ sku).toList =
      "ADD PRODUCT".toList ++ ' ' :: '"' :: (soften name.toList ++ '"' :: ' ' :: trimEnd sku.toList) := by
    have hquoted : settleQuotes ('A' :: "DD PRODUCT ".toList ++ '"' :: (name.toList ++ '"' :: ' ' :: sku.toList)) =
        'A' :: "DD PRODUCT ".toList ++ '"' :: (soften name.toList ++ '"' :: trimEnd (' ' :: sku.toList)) :=
      settleQuotes_quoted (by decide) (by decide) (by simp [hquote])
    rw [hend] at hquoted
    simpa using hquoted
  have hnameSoft : trim (soften name.toList) ≠ [] := by
    rw [Ne, trim_eq_nil_iff, blank_soften_iff, ← trim_eq_nil_iff]
    exact hname
  have htokens : tokens ('"' :: (soften name.toList ++ '"' :: ' ' :: trimEnd sku.toList)) =
      [trim (soften name.toList), trim sku.toList] := by
    have hskuQuote : '"' ∉ trimEnd sku.toList := fun h => hquote (mem_of_mem_trimEnd h)
    rw [← trim_trimEnd sku.toList] at hsku ⊢
    exact tokens_quoted (not_mem_soften _) hskuQuote hnameSoft hsku
  refine parse_of_tokens hsettle spelled_addProduct (breaks_cons isBlank_space _) ?_
  rw [dropBlank, if_pos isBlank_space, htokens]
  exact .cons rfl (.cons rfl .nil)

theorem parse_quotedName_nested :
    Command.parse "ADD PRODUCT \" \"Big\" \t\"  B 1 " = .ok (.addProduct "'Big'" "B 1") := by
  have hname : trim " \"Big\" \t".toList ≠ [] := by decide
  have hsku : trim " B 1 ".toList ≠ [] := by decide
  have hquote : '"' ∉ " B 1 ".toList := by decide
  have hline : "ADD PRODUCT \"" ++ " \"Big\" \t" ++ "\" " ++ " B 1 " = "ADD PRODUCT \" \"Big\" \t\"  B 1 " := by decide
  have hnameRead : String.ofList (trim (soften " \"Big\" \t".toList)) = "'Big'" := by decide
  have hskuRead : String.ofList (trim " B 1 ".toList) = "B 1" := by decide
  have hparse := parse_quotedName hname hsku hquote
  rwa [hline, hnameRead, hskuRead] at hparse

/-! ### SKUs -/

/-- One pair of quotes is kept as it stands. -/
theorem settleQuotes_pair {before inner after : List Char} (hbefore : '"' ∉ before) (hinner : '"' ∉ inner)
    (hafter : '"' ∉ after) (htight : Tight (before ++ '"' :: (inner ++ '"' :: after))) :
    settleQuotes (before ++ '"' :: (inner ++ '"' :: after)) = before ++ '"' :: (inner ++ '"' :: after) := by
  rw [settleQuotes, htight.trim_eq, softenInner_quoted hbefore hafter, soften_of_not_mem hinner]

section Sku

variable {op : Operation} {c : Command} {typed sku w q : String} {warehouse quantity : Int}

/-- A SKU in quotes at the end of a line. -/
theorem parse_quotedSku_last {name : String} (hname : trim name.toList ≠ []) (hnameQuote : '"' ∉ name.toList)
    (hsku : Tight sku.toList) (hquote : '"' ∉ sku.toList) :
    Command.parse ("ADD PRODUCT " ++ name ++ " \"" ++ sku ++ "\"") =
      .ok (.addProduct (String.ofList (trim name.toList)) sku) := by
  have hadd : Tight "ADD PRODUCT".toList := spelled_addProduct.tight (Operation.isCommandWord _)
  have hclosing : IsWord ['"'] := ⟨List.cons_ne_nil _ _, List.forall_mem_singleton.2 (by decide)⟩
  have hsettle : settleQuotes ("ADD PRODUCT " ++ name ++ " \"" ++ sku ++ "\"").toList =
      "ADD PRODUCT".toList ++ ' ' :: (name.toList ++ ' ' :: '"' :: (sku.toList ++ ['"'])) := by
    have hbefore : '"' ∉ "ADD PRODUCT".toList ++ ' ' :: (name.toList ++ [' ']) := by simp [hnameQuote]
    have htight := hadd.append hclosing.tight (' ' :: (name.toList ++ [' ']) ++ '"' :: sku.toList)
    have hpair := settleQuotes_pair hbefore hquote List.not_mem_nil (by simpa using htight)
    simpa using hpair
  have hlast : sku.toList.getLast? ≠ some ' ' := by
    intro h
    have hspace := hsku.last_not_blank ' ' h
    rw [isBlank_space] at hspace
    exact absurd hspace (by decide)
  have htokens : tokens (name.toList ++ ' ' :: '"' :: (sku.toList ++ ['"'])) = [trim name.toList, sku.toList] := by
    have hboth := tokens_quoted_last hnameQuote hquote hlast hname hsku.trim_ne_nil
    rwa [hsku.trim_eq] at hboth
  refine parse_of_tokens hsettle spelled_addProduct (breaks_cons isBlank_space _) ?_
  rw [dropBlank, if_pos isBlank_space, htokens, List.map_cons, List.map_cons, List.map_nil, String.ofList_toList]
  exact .cons rfl (.cons rfl .nil)

/-- Two numbers behind a SKU in quotes are one token, so the last parameter has none. -/
theorem parse_quotedSku_first (hop : op.definition.parameters = [.sku, .warehouse, .quantity])
    (htyped : Spelled op.definition.words typed.toList) (hsku : Tight sku.toList) (hquote : '"' ∉ sku.toList)
    (hw : (Value.number warehouse).Written w.toList) (hq : (Value.number quantity).Written q.toList) :
    Command.parse (typed ++ " \"" ++ sku ++ "\" " ++ w ++ " " ++ q) =
      .error (.invalidArguments [(ArgumentFault.missing Parameter.quantity.name).reason]) := by
  have htypedQuote : '"' ∉ typed.toList := htyped.not_mem_quote op.isCommandWord
  have hnumbers : Tight (w.toList ++ [' '] ++ q.toList) := hw.isWord.tight.append hq.isWord.tight [' ']
  have hnumbersQuote : '"' ∉ w.toList ++ [' '] ++ q.toList := by simp [hw.not_mem_quote, hq.not_mem_quote]
  have hsettle : settleQuotes (typed ++ " \"" ++ sku ++ "\" " ++ w ++ " " ++ q).toList =
      typed.toList ++ ' ' :: '"' :: (sku.toList ++ '"' :: ' ' :: (w.toList ++ [' '] ++ q.toList)) := by
    have hbefore : '"' ∉ typed.toList ++ [' '] := by simp [htypedQuote]
    have hafter : '"' ∉ ' ' :: (w.toList ++ [' '] ++ q.toList) := by simp [hw.not_mem_quote, hq.not_mem_quote]
    have htight := (htyped.tight op.isCommandWord).append hnumbers (' ' :: '"' :: (sku.toList ++ ['"', ' ']))
    have hpair := settleQuotes_pair hbefore hquote hafter (by simpa using htight)
    simpa using hpair
  have htokens : tokens ('"' :: (sku.toList ++ '"' :: ' ' :: (w.toList ++ [' '] ++ q.toList))) =
      [sku.toList, w.toList ++ [' '] ++ q.toList] := by
    have hboth := tokens_quoted hquote hnumbersQuote hsku.trim_ne_nil hnumbers.trim_ne_nil
    rwa [hsku.trim_eq, hnumbers.trim_eq] at hboth
  -- the first number is read up to the space, and what follows it is ignored
  have hnumber : readNumber (w.toList ++ [' '] ++ q.toList) = some warehouse := by
    rw [List.append_assoc]
    refine hw.1.readNumber_append hw.2 ?_
    intro d hd
    rw [← Option.some.inj hd]
    decide
  have hcheck : Parameter.warehouse.check (String.ofList (w.toList ++ [' '] ++ q.toList)) =
      .valid Parameter.warehouse.name (.number warehouse) := by
    rw [Parameter.check, Parameter.warehouse, ParameterType.read, String.toList_ofList, hnumber]
    rfl
  rw [parse_of_spelled hsettle htyped (breaks_cons isBlank_space _), dropBlank, if_pos isBlank_space, readArguments_eq,
    htokens, hop]
  simp only [List.map_cons, List.map_nil, checkArguments, hcheck]
  rfl

/-- With the quotes around the first number, the SKU in front and the second number are tokens of their own. -/
theorem parse_sku_quotedNumber (hargs : c.arguments = [.text sku, .number warehouse, .number quantity])
    (htyped : Spelled c.operation.definition.words typed.toList) (hsku : Tight sku.toList) (hquote : '"' ∉ sku.toList)
    (hw : (Value.number warehouse).Written w.toList) (hq : (Value.number quantity).Written q.toList) :
    Command.parse (typed ++ " " ++ sku ++ " \"" ++ w ++ "\" " ++ q) = .ok c := by
  have htypedQuote : '"' ∉ typed.toList := htyped.not_mem_quote c.operation.isCommandWord
  have hsettle : settleQuotes (typed ++ " " ++ sku ++ " \"" ++ w ++ "\" " ++ q).toList =
      typed.toList ++ ' ' :: (sku.toList ++ ' ' :: '"' :: (w.toList ++ '"' :: ' ' :: q.toList)) := by
    have hbefore : '"' ∉ typed.toList ++ ' ' :: (sku.toList ++ [' ']) := by simp [htypedQuote, hquote]
    have hafter : '"' ∉ ' ' :: q.toList := by simp [hq.not_mem_quote]
    have htight := (htyped.tight c.operation.isCommandWord).append hq.isWord.tight
      (' ' :: (sku.toList ++ ' ' :: '"' :: (w.toList ++ ['"', ' '])))
    have hpair := settleQuotes_pair hbefore hw.not_mem_quote hafter (by simpa using htight)
    simpa using hpair
  have htokens : tokens (sku.toList ++ ' ' :: '"' :: (w.toList ++ '"' :: ' ' :: q.toList)) =
      [sku.toList, w.toList, q.toList] := by
    have hwTight : Tight w.toList := hw.isWord.tight
    have hqTight : Tight q.toList := hq.isWord.tight
    have hall := tokens_quoted_middle hquote hw.not_mem_quote hq.not_mem_quote hsku.trim_ne_nil hwTight.trim_ne_nil
      hqTight.trim_ne_nil
    rwa [hsku.trim_eq, hwTight.trim_eq, hqTight.trim_eq] at hall
  refine parse_of_tokens hsettle htyped (breaks_cons isBlank_space _) ?_
  rw [dropBlank, if_pos isBlank_space, htokens, hargs]
  exact .cons (by rw [String.ofList_toList]; rfl) (.cons hw.read_eq (.cons hq.read_eq .nil))

end Sku

/-- Where a SKU with quotes is a token of its own, and how it is stocked where it is not. -/
theorem parse_quotedSku {sku : String} (hsku : Tight sku.toList) (hquote : '"' ∉ sku.toList) :
    (∀ name : String, trim name.toList ≠ [] → '"' ∉ name.toList →
      Command.parse ("ADD PRODUCT " ++ name ++ " \"" ++ sku ++ "\"") =
        .ok (.addProduct (String.ofList (trim name.toList)) sku)) ∧
    ∀ (warehouse quantity : Int) (w q : String), (Value.number warehouse).Written w.toList →
      (Value.number quantity).Written q.toList →
      Command.parse ("STOCK \"" ++ sku ++ "\" " ++ w ++ " " ++ q) =
        .error (.invalidArguments ["Missing required argument: [QTY]"]) ∧
      Command.parse ("UNSTOCK \"" ++ sku ++ "\" " ++ w ++ " " ++ q) =
        .error (.invalidArguments ["Missing required argument: [QTY]"]) ∧
      Command.parse ("STOCK " ++ sku ++ " \"" ++ w ++ "\" " ++ q) = .ok (.stock sku warehouse quantity) ∧
      Command.parse ("UNSTOCK " ++ sku ++ " \"" ++ w ++ "\" " ++ q) = .ok (.unstock sku warehouse quantity) := by
  have hstock : Spelled Operation.stock.definition.words "STOCK".toList := .last (by decide)
  have hunstock : Spelled Operation.unstock.definition.words "UNSTOCK".toList := .last (by decide)
  have hstockQuote : "STOCK \"" = "STOCK" ++ " \"" := by decide
  have hunstockQuote : "UNSTOCK \"" = "UNSTOCK" ++ " \"" := by decide
  have hstockSpace : "STOCK " = "STOCK" ++ " " := by decide
  have hunstockSpace : "UNSTOCK " = "UNSTOCK" ++ " " := by decide
  refine ⟨fun name hname hnameQuote => parse_quotedSku_last hname hnameQuote hsku hquote, ?_⟩
  intro warehouse quantity w q hw hq
  rw [hstockQuote, hunstockQuote, hstockSpace, hunstockSpace]
  refine ⟨?_, ?_, ?_, ?_⟩
  · exact parse_quotedSku_first rfl hstock hsku hquote hw hq
  · exact parse_quotedSku_first rfl hunstock hsku hquote hw hq
  · exact parse_sku_quotedNumber rfl hstock hsku hquote hw hq
  · exact parse_sku_quotedNumber rfl hunstock hsku hquote hw hq

private theorem written_one : (Value.number 1).Written "1".toList := by
  have hone : Numeral 1 (List.replicate 0 '0' ++ digits 1) := .plain 1 0
  have hdigits : digits 1 = ['1'] := by simp [digits, digitChar]
  rw [hdigits] at hone
  exact ⟨hone, by decide⟩

private theorem tight_twoWords : Tight "A B".toList := by
  have hA : IsWord ['A'] := ⟨List.cons_ne_nil _ _, List.forall_mem_singleton.2 (by decide)⟩
  have hB : IsWord ['B'] := ⟨List.cons_ne_nil _ _, List.forall_mem_singleton.2 (by decide)⟩
  exact hA.tight.append hB.tight [' ']

theorem parse_quotedSku_twoWords :
    Command.parse ("ADD PRODUCT " ++ "n" ++ " \"" ++ "A B" ++ "\"") = .ok (.addProduct "n" "A B") ∧
      Command.parse ("STOCK " ++ "A B" ++ " \"" ++ "1" ++ "\" " ++ "1") = .ok (.stock "A B" 1 1) := by
  obtain ⟨hlast, hnumbers⟩ := parse_quotedSku tight_twoWords (by decide)
  obtain ⟨-, -, hstock, -⟩ := hnumbers 1 1 "1" "1" written_one written_one
  have hname : String.ofList (trim "n".toList) = "n" := by decide
  have hadd := hlast "n" (by decide) (by decide)
  rw [hname] at hadd
  exact ⟨hadd, hstock⟩

/-- Quotes around the SKU in front of two numbers do not make a command. -/
theorem parse_stock_quotedFirst_ne :
    Command.parse "STOCK \"A B\" 1 1" ≠ .ok (.stock "A B" 1 1) ∧
      Command.parse "UNSTOCK \"A B\" 1 1" ≠ .ok (.unstock "A B" 1 1) := by
  have hstock : Spelled Operation.stock.definition.words "STOCK".toList := .last (by decide)
  have hunstock : Spelled Operation.unstock.definition.words "UNSTOCK".toList := .last (by decide)
  have hquote : '"' ∉ "A B".toList := by decide
  have hstockLine : "STOCK \"A B\" 1 1" = "STOCK" ++ " \"" ++ "A B" ++ "\" " ++ "1" ++ " " ++ "1" := by decide
  have hunstockLine : "UNSTOCK \"A B\" 1 1" = "UNSTOCK" ++ " \"" ++ "A B" ++ "\" " ++ "1" ++ " " ++ "1" := by decide
  rw [hstockLine, hunstockLine, parse_quotedSku_first rfl hstock tight_twoWords hquote written_one written_one,
    parse_quotedSku_first rfl hunstock tight_twoWords hquote written_one written_one]
  exact ⟨nofun, nofun⟩

end Stockroom
