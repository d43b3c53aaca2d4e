import Stockroom.Proofs.Cuts

/-!
# More arguments than a command has

What is typed behind a line that has every argument of its command is ignored, as far as it makes arguments of its own.
It does not where the last argument goes on with it: a number does not mind, since it ends where its digits end, but the
SKU of a new product does, if it is the second and last argument of a line with quotes and no quote closes it.  Then the
SKU goes on with the new text (`parse_surplus`).

The proof follows the line through its stages.  The words of the command are the same in the longer line, and what is
left for the arguments is the old text with the new behind it (`exists_read`); how its tokens go on is in
`Stockroom.Proofs.Cuts`; and the arguments only depend on as many tokens as there are parameters
(`readArguments_append`).
-/

namespace Stockroom

open Text

/-! ### The words of the command -/

/-- No quote becomes a capital letter. -/
private theorem not_mem_quote_of_upper {w : List Char} (h : IsCommandWord (String.ofList (upper w))) : '"' ∉ w := by
  intro hmem
  have hupper : '"' ∈ (String.ofList (upper w)).toList := by
    rw [String.toList_ofList, upper, List.mem_flatMap]
    exact ⟨'"', hmem, by rw [upperChar_of_ascii (by decide)]; decide⟩
  exact absurd (List.all_eq_true.1 h.2 _ hupper) (by decide)

/-- A line that matches a command begins with words that match it, whatever follows them. -/
theorem exists_matched {line : List Char} {found : Matched} (h : matchCommand commandTable line = .ok found) :
    ∃ (op : Operation) (front rest : List Char), line = front ++ rest ∧ '"' ∉ front ∧ Breaks rest ∧
      ∀ r, Breaks r → matchCommand commandTable (front ++ r) = .ok ⟨op.definition, dropBlank r⟩ := by
  simp only [matchCommand] at h
  split at h
  · rename_i d hd
    obtain ⟨hmem, hfits⟩ := List.mem_filter.1 (mem_of_longest? hd)
    obtain ⟨op, -, rfl⟩ := List.mem_map.1 hmem
    have hprefix : op.definition.words <+: commandWords line := List.isPrefixOf_iff_prefix.1 hfits
    have hlength : op.definition.words.length ≤ (words line).length := by
      simpa [commandWords] using hprefix.length_le
    have htake : (commandWords line).take op.definition.words.length = op.definition.words :=
      (List.prefix_iff_eq_take.1 hprefix).symm
    obtain ⟨n, hn⟩ := Nat.exists_eq_add_one_of_ne_zero op.length_words_ne_zero
    rw [hn] at hlength htake
    obtain ⟨lead, body, rest, rfl, hlead, hbody, hrest⟩ := exists_joined n hlength
    refine ⟨op, lead ++ body, rest, by simp, ?_, hrest, ?_⟩
    · intro hquote
      rcases List.mem_append.1 hquote with hquote | hquote
      · exact hlead.not_mem_quote hquote
      rcases hbody.blank_or_mem hquote with hblank | ⟨w, hw, hmem⟩
      · exact absurd hblank (by decide)
      have hword : String.ofList (upper w) ∈ op.definition.words := by
        rw [← htake, commandWords, ← List.map_take]
        exact List.mem_map_of_mem hw
      exact not_mem_quote_of_upper (op.isCommandWord _ hword) hmem
    · intro r hr
      have hcommand : commandWords (lead ++ (body ++ r)) = op.definition.words ++ commandWords r := by
        rw [commandWords, words_blank_append hlead, hbody.words_append hr, List.map_append, List.map_take]
        exact congrArg (· ++ commandWords r) htake
      have hdrop : dropWords op.definition.words.length (lead ++ (body ++ r)) = r := by
        rw [dropWords_blank hlead _ op.length_words_ne_zero, hn]
        have htaken : ((words (lead ++ (body ++ rest))).take (n + 1)).length = n + 1 := List.length_take_of_le hlength
        have hskip := hbody.dropWords_append hr
        rwa [htaken] at hskip
      rw [List.append_assoc]
      simp only [matchCommand, hcommand, longest?_words_append, hdrop]
  · cases h

/-- The operation of a command is the one it was put together for. -/
private theorem operation_of_ofArguments {op : Operation} {args : Arguments} {c : Command}
    (h : Command.ofArguments op args = .ok c) : c.operation = op := by
  cases op with
  | addProduct =>
    obtain ⟨_, -, h⟩ := bind_eq_ok.1 h
    obtain ⟨_, -, h⟩ := bind_eq_ok.1 h
    obtain rfl := Except.ok.inj h
    rfl
  | addWarehouse | listWarehouse =>
    obtain ⟨_, -, h⟩ := bind_eq_ok.1 h
    obtain rfl := Except.ok.inj h
    rfl
  | stock | unstock =>
    obtain ⟨_, -, h⟩ := bind_eq_ok.1 h
    obtain ⟨_, -, h⟩ := bind_eq_ok.1 h
    obtain ⟨_, -, h⟩ := bind_eq_ok.1 h
    obtain rfl := Except.ok.inj h
    rfl
  | listProducts | listWarehouses =>
    obtain rfl := Except.ok.inj h
    rfl

/-- The arguments on a line. -/
def argumentTokens (line : String) : List (List Char) :=
  match matchCommand commandTable (settleQuotes line.toList) with
  | .ok found => tokens found.remainder
  | .error _ => []

/-- Reads the text behind the words of a command. -/
def readRest (op : Operation) (rest : List Char) : Except Fault Command := do
  let args ← readArguments op.definition.parameters (dropBlank rest)
  Command.ofArguments op args

private theorem parse_of_match {line : String} {op : Operation} {rest : List Char}
    (h : matchCommand commandTable (settleQuotes line.toList) = .ok ⟨op.definition, dropBlank rest⟩) :
    Command.parse line = readRest op rest := by
  have hop : op.definition.operation = op := op.operation_definition
  rw [Command.parse, h, readRest]
  simp only [bind, Except.bind, hop]

/-- Settling a line with more text behind it takes away blanks at both ends, and none in between. -/
private theorem exists_settleQuotes_append {l x : List Char} (hcount : l.count '"' ≤ 2) (hl : ¬ Blank l)
    (hx : ¬ Blank x) (hquote : '"' ∉ x) :
    ∃ lead gap, Blank lead ∧ Blank gap ∧ l = lead ++ trim l ++ gap ∧ Surplus (gap ++ ' ' :: trimEnd x) ∧
      settleQuotes (l ++ ' ' :: x) = trim l ++ (gap ++ ' ' :: trimEnd x) := by
  obtain ⟨lead, gap, hlead, hgap, hsplit⟩ := exists_around_trim l
  obtain ⟨trail, htrail, hxsplit⟩ := exists_trimEnd_append x
  have hsurplus : Surplus (gap ++ ' ' :: trimEnd x) :=
    .intro hgap (mt trimEnd_eq_nil_iff.1 hx) (fun _ => isBlank_of_getLast?_trimEnd) (mt mem_of_mem_trimEnd hquote)
  have htight : Tight (trim l) := tight_trim hl
  have hcountLonger : (l ++ ' ' :: x).count '"' ≤ 2 := by
    rw [List.count_append, List.count_cons, List.count_eq_zero.2 hquote]
    simpa using hcount
  have haround : l ++ ' ' :: x = lead ++ (trim l ++ (gap ++ ' ' :: trimEnd x)) ++ trail := by
    conv_lhs => rw [hsplit, hxsplit]
    simp
  refine ⟨lead, gap, hlead, hgap, hsplit, hsurplus, ?_⟩
  rw [settleQuotes_of_count hcountLonger, haround, trim_around hlead htrail, hsurplus.trim_append htight.not_blank,
    htight.trimStart_eq]

/-- The parts of a line around the text for its arguments: all its quotes are in that text, and the blanks at the end of
the line are not. -/
structure Laid (line before text gap : List Char) : Prop where
  line_eq : line = before ++ text ++ gap
  not_mem_before : '"' ∉ before
  blank_gap : Blank gap
  last_not_blank : ∀ c, text.getLast? = some c → isBlank c = false

namespace Laid

variable {line before text gap : List Char}

private theorem count_eq (h : Laid line before text gap) : text.count '"' = line.count '"' := by
  rw [h.line_eq, List.count_append, List.count_append, List.count_eq_zero.2 h.not_mem_before,
    List.count_eq_zero.2 h.blank_gap.not_mem_quote, Nat.zero_add, Nat.add_zero]

theorem tail {b : Char} (h : Laid line before (b :: text) gap) (hb : isBlank b = true) :
    Laid line (before ++ [b]) text gap where
  line_eq := by
    rw [h.line_eq]
    simp
  not_mem_before := by
    have hquote : '"' ∉ [b] := Blank.not_mem_quote (List.forall_mem_singleton.2 hb)
    rw [List.mem_append, not_or]
    exact ⟨h.not_mem_before, hquote⟩
  blank_gap := h.blank_gap
  last_not_blank := by
    intro c hc
    apply h.last_not_blank
    rw [List.getLast?_cons, hc]
    rfl

end Laid

/-- How a line with at most two quotes is read, alone and with more text behind it. -/
theorem exists_read {line x : String} {c : Command} (hcount : line.toList.count '"' ≤ 2) (hx : ¬ Blank x.toList)
    (hquote : '"' ∉ x.toList) (hparse : Command.parse line = .ok c) :
    ∃ before rest gap, Laid line.toList before rest gap ∧ Breaks rest ∧ Surplus (gap ++ ' ' :: trimEnd x.toList) ∧
      argumentTokens line = tokens (dropBlank rest) ∧ readRest c.operation rest = .ok c ∧
      Command.parse (line ++ " " ++ x) = readRest c.operation (rest ++ (gap ++ ' ' :: trimEnd x.toList)) := by
  obtain ⟨found, hfound, -⟩ := bind_eq_ok.1 hparse
  have hblank : ¬ Blank line.toList := by
    intro hb
    rw [settleQuotes_of_count hcount, trim_eq_nil_iff.2 hb] at hfound
    have hnone : matchCommand commandTable [] = .error (.unknownCommand "") := rfl
    rw [hnone] at hfound
    cases hfound
  obtain ⟨lead, gap, hlead, hgap, hline, hsurplus, hlonger⟩ := exists_settleQuotes_append hcount hblank hx hquote
  obtain ⟨op, front, rest, hfront, hfrontQuote, hrest, hmatch⟩ := exists_matched hfound
  have hown : Command.parse line = readRest op rest := by
    apply parse_of_match
    rw [hfront]
    exact hmatch rest hrest
  obtain rfl : c.operation = op := by
    rw [hown] at hparse
    obtain ⟨args, -, hc⟩ := bind_eq_ok.1 hparse
    exact operation_of_ofArguments hc
  have htokens : argumentTokens line = tokens (dropBlank rest) := by
    rw [argumentTokens, hfront, hmatch rest hrest]
  rw [settleQuotes_of_count hcount] at hfront
  have hlaid : Laid line.toList (lead ++ front) rest gap := by
    refine ⟨?_, ?_, hgap, ?_⟩
    · conv_lhs => rw [hline, hfront]
      simp
    · rw [List.mem_append, not_or]
      exact ⟨hlead.not_mem_quote, hfrontQuote⟩
    · intro d hd
      apply (tight_trim hblank).last_not_blank
      rw [hfront, List.getLast?_append, hd]
      rfl
  refine ⟨lead ++ front, rest, gap, hlaid, hrest, hsurplus, htokens, hown.symm.trans hparse, ?_⟩
  have hlist : (line ++ " " ++ x).toList = line.toList ++ ' ' :: x.toList := by simp
  apply parse_of_match
  rw [hlist, hlonger, hfront, List.append_assoc]
  apply hmatch
  cases rest with
  | nil => exact hsurplus.breaks
  | cons b rest => exact breaks_cons (hrest b rfl) _

/-! ### Tokens beyond the parameters -/

private theorem checkArguments_append {ps : List Parameter} {ts : List String} (h : ps.length ≤ ts.length)
    (others : List String) : checkArguments ps (ts ++ others) = checkArguments ps ts := by
  induction ps generalizing ts with
  | nil => rfl
  | cons p ps ih =>
    cases ts with
    | nil => exact absurd h (Nat.not_succ_le_zero _)
    | cons t ts =>
      rw [List.cons_append, checkArguments, checkArguments, ih (Nat.le_of_succ_le_succ h)]

private theorem checkArguments_concat {ps : List Parameter} {ts : List String} (h : ps.length = ts.length)
    (p : Parameter) (t : String) (others : List String) :
    checkArguments (ps ++ [p]) (ts ++ t :: others) = checkArguments ps ts ++ [p.check t] := by
  induction ps generalizing ts with
  | nil =>
    obtain rfl := List.length_eq_zero_iff.1 h.symm
    rfl
  | cons q ps ih =>
    cases ts with
    | nil => cases h
    | cons u ts =>
      rw [List.cons_append, List.cons_append, checkArguments, checkArguments, ih (Nat.succ.inj h)]
      rfl

/-- Tokens that begin with enough of the same give the same arguments. -/
private theorem readArguments_of_more {ps : List Parameter} {text longer : List Char}
    {init others further : List (List Char)} (hlength : ps.length ≤ init.length) (htext : tokens text = init ++ others)
    (hlonger : tokens longer = init ++ further) : readArguments ps longer = readArguments ps text := by
  have hmap : ps.length ≤ (init.map String.ofList).length := by rwa [List.length_map]
  rw [readArguments_eq, readArguments_eq, htext, hlonger, List.map_append, List.map_append, checkArguments_append hmap,
    checkArguments_append hmap]

/-- A number that is read in place of the last token, with the same value, makes no difference. -/
private theorem readArguments_of_number {ps : List Parameter} {p : Parameter} {text longer : List Char}
    {init further : List (List Char)} {t : List Char} {args : Arguments} (hp : p.type = .number)
    (hlength : ps.length = init.length) (htext : tokens text = init ++ [t]) (hlonger : tokens longer = init ++ further)
    (hread : ∀ n, readNumber t = some n → ∃ t' others, further = t' :: others ∧ readNumber t' = some n)
    (h : readArguments (ps ++ [p]) text = .ok args) : readArguments (ps ++ [p]) longer = .ok args := by
  have hmap : ps.length = (init.map String.ofList).length := by rw [hlength, List.length_map]
  have hcheck (l : List Char) : p.check (String.ofList l) =
      (readNumber l).elim (.invalid (.wrongType p.type p.name)) (fun n => .valid p.name (.number n)) := by
    rw [Parameter.check, hp, ParameterType.read, String.toList_ofList]
    cases readNumber l <;> rfl
  rw [readArguments_eq, htext, List.map_append, List.map_cons, checkArguments_concat hmap, hcheck t] at h
  cases hn : readNumber t with
  | none => simp [hn, Arguments.ofChecked, Checked.isValid] at h
  | some n =>
    obtain ⟨t', others, rfl, ht'⟩ := hread n hn
    rw [readArguments_eq, hlonger, List.map_append, List.map_cons, checkArguments_concat hmap, hcheck t', ht', ← h,
      hn]

/-- Only a new product has a text for its last argument. -/
private theorem Operation.exists_number {op : Operation} (hop : op ≠ .addProduct)
    (hne : op.definition.parameters ≠ []) : ∃ ps p, op.definition.parameters = ps ++ [p] ∧ p.type = .number := by
  cases op with
  | addProduct => exact absurd rfl hop
  | addWarehouse => exact ⟨[.warehouse], .stockLimit, rfl, rfl⟩
  | stock | unstock => exact ⟨[.sku, .warehouse], .quantity, rfl, rfl⟩
  | listProducts | listWarehouses => exact absurd rfl hne
  | listWarehouse => exact ⟨[], .warehouse, rfl, rfl⟩

/-- Whatever becomes of the last token, the arguments are the same if there were more tokens than parameters or the last
parameter is a number. -/
theorem readArguments_append {op : Operation} {text m : List Char} {args : Arguments} (hm : Surplus m)
    (hsupplied : op.definition.parameters.length ≤ (tokens text).length)
    (hlast : op.definition.parameters.length < (tokens text).length ∨ op ≠ .addProduct)
    (h : readArguments op.definition.parameters text = .ok args) :
    readArguments op.definition.parameters (text ++ m) = .ok args := by
  rcases hm.tokens_cases text with ⟨others, hmore⟩ | ⟨init, t, further, htext, hlonger, hread⟩
  · rw [readArguments_of_more hsupplied (List.append_nil _).symm hmore, h]
  rw [htext, List.length_append, List.length_singleton] at hsupplied hlast
  by_cases hinit : op.definition.parameters.length ≤ init.length
  · rw [readArguments_of_more hinit htext hlonger, h]
  · have hne : op.definition.parameters ≠ [] := by
      intro hnil
      simp [hnil] at hinit
    obtain ⟨ps, p, hps, hp⟩ := Operation.exists_number (hlast.resolve_left (by omega)) hne
    rw [hps, List.length_append, List.length_singleton] at hsupplied hinit
    rw [hps] at h ⊢
    exact readArguments_of_number hp (by omega) htext hlonger hread h

/-! ### More text behind a line -/

/-- The line ends with a quote, up to blanks, and with one more space behind the line that quote touches a space. -/
def Closed (line : List Char) : Prop :=
  ∃ front gap, line = front ++ '"' :: gap ∧ Blank gap ∧ (front.getLast? = some ' ' ∨ gap = [] ∨ gap.head? = some ' ')

/-- The last argument of a line goes on with what follows: the line adds a product with a name, a SKU and nothing more,
and it has two quotes, but the last one does not close it. -/
structure LeftOpen (line : String) (c : Command) : Prop where
  adds_product : c.operation = .addProduct
  two_arguments : (argumentTokens line).length = 2
  two_quotes : line.toList.count '"' = 2
  not_closed : ¬ Closed line.toList

private theorem Laid.closed_iff {line before text gap extra : List Char} (h : Laid line before text gap)
    (hlength : 1 < (tokens text).length) : Closed line ↔ Closes text (gap ++ ' ' :: extra) := by
  have hspace : (gap ++ ' ' :: extra).head? = some ' ' ↔ gap = [] ∨ gap.head? = some ' ' := by
    cases gap <;> simp
  constructor
  · rintro ⟨front, gap', hline, hgap', htouch⟩
    obtain ⟨l, c, rfl⟩ : ∃ l c, text = l ++ [c] := by
      refine (List.eq_nil_or_concat' text).resolve_left ?_
      rintro rfl
      exact absurd hlength (by decide)
    have hend : trimEnd line = before ++ l ++ [c] := by
      rw [h.line_eq, trimEnd_append_of_blank h.blank_gap, ← List.append_assoc, trimEnd_eq_self]
      intro d hd
      apply h.last_not_blank
      rwa [List.getLast?_concat] at hd ⊢
    have hend' : trimEnd line = front ++ ['"'] := by
      rw [hline, List.append_cons, trimEnd_append_of_blank hgap', trimEnd_eq_self]
      intro d hd
      rw [List.getLast?_concat] at hd
      rw [← Option.some.inj hd]
      decide
    obtain ⟨rfl, hc⟩ := List.append_inj' (hend.symm.trans hend') rfl
    obtain rfl := List.singleton_injective hc
    obtain rfl : gap = gap' := by simpa [h.line_eq] using hline
    refine ⟨l, rfl, ?_⟩
    rw [hspace]
    refine htouch.imp_left ?_
    intro hl
    rwa [List.getLast?_append_of_ne_nil _ ?_] at hl
    rintro rfl
    exact absurd hlength (by decide)
  · rintro ⟨l, rfl, htouch⟩
    rw [hspace] at htouch
    refine ⟨before ++ l, gap, by simp [h.line_eq], h.blank_gap, htouch.imp_left ?_⟩
    intro hl
    rw [List.getLast?_append, hl]
    rfl

private theorem readRest_cons {b : Char} (hb : isBlank b = true) (op : Operation) (text : List Char) :
    readRest op (b :: text) = (do
      let args ← readArguments op.definition.parameters text
      Command.ofArguments op args) := by
  rw [readRest, dropBlank, if_pos hb]

private theorem readRest_addProduct {b : Char} (hb : isBlank b = true) {text t₁ t₂ : List Char}
    (h : tokens text = [t₁, t₂]) :
    readRest .addProduct (b :: text) = .ok (.addProduct (String.ofList t₁) (String.ofList t₂)) := by
  rw [readRest_cons hb, readArguments, h]
  rfl

section Rest

variable {c : Command} {b : Char} {text m : List Char}

/-- More text changes nothing if it gives tokens of its own, if the last token was one too many already, or if the last
parameter is a number. -/
private theorem readRest_append (hb : isBlank b = true) (hm : Surplus m)
    (hsupplied : c.operation.definition.parameters.length ≤ (tokens text).length)
    (hkept : (∃ others, tokens (text ++ m) = tokens text ++ others) ∨
      c.operation.definition.parameters.length < (tokens text).length ∨ c.operation ≠ .addProduct)
    (hread : readRest c.operation (b :: text) = .ok c) : readRest c.operation (b :: text ++ m) = .ok c := by
  rw [readRest_cons hb] at hread
  obtain ⟨args, hargs, hc⟩ := bind_eq_ok.1 hread
  rw [List.cons_append, readRest_cons hb]
  refine bind_eq_ok.2 ⟨args, ?_, hc⟩
  rcases hkept with ⟨others, hothers⟩ | hlast
  · rw [readArguments_of_more hsupplied (List.append_nil _).symm hothers, hargs]
  · exact readArguments_append hm hsupplied hlast hargs

/-- Where the last token of a new product is not closed, the SKU goes on with the text. -/
private theorem readRest_append_of_not_closes {name sku : String} (hb : isBlank b = true) (hm : Surplus m)
    (hquote : '"' ∈ text) (hcount : text.count '"' ≤ 2)
    (hlast : ∀ ch, text.getLast? = some ch → isBlank ch = false) (hlength : (tokens text).length = 2)
    (hcloses : ¬ Closes text m) (hread : readRest .addProduct (b :: text) = .ok (.addProduct name sku)) :
    ∃ front after, text = front ++ sku.toList ++ after ∧ (∀ ch ∈ after, isBlank ch = true ∨ ch = '"') ∧
      readRest .addProduct (b :: text ++ m) = .ok (.addProduct name (String.ofList (sku.toList ++ after ++ m))) := by
  obtain ⟨t₁, t, front, after, hown, htext, hafter, hlonger⟩ :=
    hm.tokens_of_not_closes hquote hcount hlast hlength hcloses
  rw [readRest_addProduct hb hown] at hread
  obtain ⟨rfl, rfl⟩ := Command.addProduct.inj (Except.ok.inj hread)
  rw [String.toList_ofList]
  exact ⟨front, after, htext, hafter, readRest_addProduct hb hlonger⟩

end Rest

/-- More text behind a line that has every argument of its command, with no quotes or two, is ignored, or it makes the
SKU of a new product longer; and it does that exactly if the line is left open. -/
theorem parse_surplus {line x : String} {c : Command}
    (hcount : line.toList.count '"' = 0 ∨ line.toList.count '"' = 2) (hparse : Command.parse line = .ok c)
    (hsupplied : c.operation.definition.parameters.length ≤ (argumentTokens line).length) (hx : ¬ Blank x.toList)
    (hquote : '"' ∉ x.toList) :
    (¬ LeftOpen line c → Command.parse (line ++ " " ++ x) = .ok c) ∧
      ∀ name sku, c = .addProduct name sku → LeftOpen line c →
        ∃ before after, line.toList = before ++ sku.toList ++ after ∧ (∀ ch ∈ after, isBlank ch = true ∨ ch = '"') ∧
          Command.parse (line ++ " " ++ x) =
            .ok (.addProduct name (String.ofList (sku.toList ++ after ++ ' ' :: trimEnd x.toList))) := by
  obtain ⟨before, rest, gap, hlaid, hrest, hsurplus, htokens, hread, hlonger⟩ :=
    exists_read (by omega) hx hquote hparse
  rw [hlonger]
  rcases rest with _ | ⟨b, text⟩
  · -- then there are no parameters, and the text behind the words is not read
    have hnone : (argumentTokens line).length = 0 := by rw [htokens]; rfl
    have hnil : c.operation.definition.parameters = [] := List.length_eq_zero_iff.1 (by omega)
    have hany (r : List Char) : readRest c.operation r = readRest c.operation [] := by
      rw [readRest, readRest, hnil]
      rfl
    refine ⟨fun _ => by rw [hany, hread], ?_⟩
    intro name sku _ hopen
    have htwo := hopen.two_arguments
    omega
  have hb : isBlank b = true := hrest b rfl
  have htext : Laid line.toList (before ++ [b]) text gap := hlaid.tail hb
  rw [dropBlank, if_pos hb] at htokens
  rw [← htext.count_eq] at hcount
  constructor
  · intro hopen
    rw [htokens] at hsupplied
    refine readRest_append hb hsurplus hsupplied ?_ hread
    by_cases hlast : c.operation.definition.parameters.length < (tokens text).length ∨ c.operation ≠ .addProduct
    · exact .inr hlast
    · -- a new product with two arguments: there are no quotes, or the last one closes the line
      left
      obtain ⟨hmany, hop⟩ := not_or.1 hlast
      have hadd : c.operation = .addProduct := not_not.1 hop
      have htwo : (tokens text).length = 2 := by
        have hparameters : c.operation.definition.parameters.length = 2 := by rw [hadd]; rfl
        omega
      rcases hcount with hnone | hquotes
      · exact hsurplus.tokens_of_not_mem (List.count_eq_zero.1 hnone)
      · have hclosed : Closed line.toList := by
          by_contra hnot
          exact hopen ⟨hadd, htokens ▸ htwo, htext.count_eq ▸ hquotes, hnot⟩
        exact hsurplus.tokens_of_closes hquotes.le htwo.ge ((htext.closed_iff htwo.ge).1 hclosed)
  · rintro name sku rfl hopen
    have htwo : (tokens text).length = 2 := htokens ▸ hopen.two_arguments
    have hquotes : text.count '"' = 2 := htext.count_eq.trans hopen.two_quotes
    have hmem : '"' ∈ text := List.count_pos_iff.1 (by omega)
    have hnot : ¬ Closes text (gap ++ ' ' :: trimEnd x.toList) := mt (htext.closed_iff htwo.ge).2 hopen.not_closed
    obtain ⟨front, after, hsplit, hafter, hresult⟩ :=
      readRest_append_of_not_closes hb hsurplus hmem hquotes.le htext.last_not_blank htwo hnot hread
    refine ⟨before ++ [b] ++ front, after ++ gap, ?_, ?_, ?_⟩
    · rw [htext.line_eq, hsplit]
      simp
    · intro ch hch
      exact (List.mem_append.1 hch).elim (hafter ch) (fun h => .inl (htext.blank_gap ch h))
    · rw [List.append_assoc, List.append_assoc]
      rw [List.append_assoc] at hresult
      exact hresult

private theorem not_closed_of_getLast? {line : List Char} {c : Char} (h : line.getLast? = some c) (hc : c ≠ '"')
    (hblank : isBlank c = false) : ¬ Closed line := by
  rintro ⟨front, gap, rfl, hgap, -⟩
  rw [List.getLast?_append_of_ne_nil _ (List.cons_ne_nil _ _)] at h
  rcases List.mem_cons.1 (List.mem_of_getLast? h) with rfl | hmem
  · exact hc rfl
  · rw [hgap c hmem] at hblank
    cases hblank

theorem parse_surplus_limit_and_sku :
    Command.parse ("ADD WAREHOUSE 1 \"2\"" ++ " " ++ "3 x") = .ok (.addWarehouse 1 (some 2)) ∧
      Command.parse ("ADD PRODUCT \"A\" B" ++ " " ++ "x") = .ok (.addProduct "A" "B x") := by
  have hlimit : Command.parse "ADD WAREHOUSE 1 \"2\"" = .ok (.addWarehouse 1 (some 2)) := rfl
  have hproduct : Command.parse "ADD PRODUCT \"A\" B" = .ok (.addProduct "A" "B") := rfl
  have hdigit : ¬ Blank "3 x".toList := fun h => absurd (h '3' (by decide)) (by decide)
  have hletter : ¬ Blank "x".toList := fun h => absurd (h 'x' (by decide)) (by decide)
  have hopen : LeftOpen "ADD PRODUCT \"A\" B" (.addProduct "A" "B") :=
    ⟨rfl, rfl, rfl, not_closed_of_getLast? (c := 'B') rfl (by decide) (by decide)⟩
  obtain ⟨hkept, -⟩ := parse_surplus (.inr rfl) hlimit (by decide) hdigit (by decide)
  obtain ⟨-, hgrown⟩ := parse_surplus (.inr rfl) hproduct (by decide) hletter (by decide)
  obtain ⟨before, after, hline, hafter, hparse⟩ := hgrown "A" "B" rfl hopen
  -- the line ends with the SKU
  have hnil : after = [] := by
    by_contra hne
    have hlast : after.getLast? = some 'B' := by
      rw [← List.getLast?_append_of_ne_nil (before ++ "B".toList) hne, ← hline]
      rfl
    exact absurd (hafter 'B' (List.mem_of_getLast? hlast)) (by decide)
  rw [hnil] at hparse
  refine ⟨hkept ?_, hparse⟩
  intro hnot
  cases hnot.adds_product

/-- A word behind a SKU without quotes becomes part of it, if the name in front is in quotes. -/
theorem parse_product_surplus_ne :
    "ADD PRODUCT \"A\" B".toList.count '"' = 2 ∧ Command.parse "ADD PRODUCT \"A\" B" = .ok (.addProduct "A" "B") ∧
      (argumentTokens "ADD PRODUCT \"A\" B").length = Operation.addProduct.definition.parameters.length ∧
      Command.parse ("ADD PRODUCT \"A\" B" ++ " " ++ "x") ≠ .ok (.addProduct "A" "B") := by
  have hlonger : Command.parse ("ADD PRODUCT \"A\" B" ++ " " ++ "x") = .ok (.addProduct "A" "B x") := rfl
  refine ⟨rfl, rfl, rfl, ?_⟩
  rw [hlonger]
  simp

end Stockroom
