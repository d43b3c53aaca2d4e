import Mathlib.Data.List.Induction
import Mathlib.Data.Nat.Digits.Defs
import Stockroom.Proofs.Written

/-!
# Numbers at the beginning of a token

A token is read as a number exactly if it begins with one (`BeginsWith`) that has 63 bits beside its sign: blanks, at
most one sign, and a run of digits that ends where no more follow, whatever comes then (`read_number_iff`).  The digits
are read before the sign is applied, so of the numbers of 64 bits the least one is refused like those that are too
large (`read_least`).
-/

namespace Stockroom

open Text

/-- The number that a sign and a run of digits denote. -/
def signedValue (sign run : List Char) : Int :=
  let magnitude : Nat := Nat.ofDigits 10 (run.map digitValue).reverse
  if sign = ['-'] then -(magnitude : Int) else magnitude

/-- The text is blanks, at most one sign, a run of digits that no digit follows, and a rest. -/
inductive BeginsWith : Int → List Char → Prop
  | intro {lead sign run rest : List Char} (hlead : Blank lead) (hsign : sign = [] ∨ sign = ['+'] ∨ sign = ['-'])
      (hne : run ≠ []) (hrun : ∀ c ∈ run, isDigit c = true) (hrest : ∀ c, rest.head? = some c → isDigit c = false) :
      BeginsWith (signedValue sign run) (lead ++ (sign ++ run ++ rest))

/-! ### Reading is exact -/

/-- The value of a run of digits is that of its positional notation. -/
private theorem digitsValue_eq_ofDigits (run : List Char) :
    digitsValue run = Nat.ofDigits 10 (run.map digitValue).reverse := by
  induction run using List.reverseRecOn with
  | nil => rfl
  | append_singleton run c ih =>
    rw [digitsValue_append_singleton, ih, List.map_append, List.map_singleton, List.reverse_append,
      List.reverse_singleton, List.singleton_append, Nat.ofDigits_cons]
    exact Nat.add_comm _ _

theorem readNumber_blank_append {lead : List Char} (h : Blank lead) (l : List Char) :
    readNumber (lead ++ l) = readNumber l := by
  simp only [readNumber, trimStart_append_of_blank h]

/-- No digit comes where a text breaks. -/
theorem Text.Breaks.not_isDigit {l : List Char} (h : Breaks l) {c : Char} (hc : l.head? = some c) :
    isDigit c = false := by
  by_contra hdigit
  have hblank : isBlank c = false := isBlank_of_isDigit (by simpa using hdigit)
  rw [h c hc] at hblank
  cases hblank

theorem readNumber_of_blank {l : List Char} (h : Blank l) : readNumber l = none := by
  simp [readNumber, trimStart_eq_nil_iff.2 h, afterSign]

/-- What comes behind a text that is not blank is not read, unless it begins with a digit. -/
theorem readNumber_append {l m : List Char} (hl : ¬ Blank l) (hm : ∀ c, m.head? = some c → isDigit c = false) :
    readNumber (l ++ m) = readNumber l := by
  have hstart : trimStart l ≠ [] := mt trimStart_eq_nil_iff.1 hl
  have hafter : afterSign (trimStart l ++ m) = afterSign (trimStart l) ++ m := by
    obtain ⟨c, rest, hc⟩ := List.exists_cons_of_ne_nil hstart
    rw [hc, List.cons_append]
    unfold afterSign
    split <;> simp_all
  have hrun (k : List Char) : (k ++ m).takeWhile isDigit = k.takeWhile isDigit := by
    have hnone : m.takeWhile isDigit = [] := by
      cases m with
      | nil => rfl
      | cons d m => simp [hm d rfl]
    rw [List.takeWhile_append, hnone, List.append_nil]
    split
    · rename_i hlength
      exact ((List.takeWhile_prefix _).eq_of_length hlength).symm
    · rfl
  have hhead : (trimStart l ++ m).head? = (trimStart l).head? := List.head?_append_of_ne_nil _ hstart
  simp only [readNumber, trimStart_append_of_ne hstart, hafter, hrun, hhead]

/-- Blanks around a token make no difference. -/
theorem readNumber_trim (l : List Char) : readNumber (trim l) = readNumber l := by
  by_cases h : Blank l
  · rw [trim_eq_nil_iff.2 h, readNumber_of_blank h, readNumber_of_blank blank_nil]
  · obtain ⟨lead, trail, hlead, htrail, hl⟩ := exists_around_trim l
    have hne : ¬ Blank (trim l) := (tight_trim h).not_blank
    have hstop : ∀ c, trail.head? = some c → isDigit c = false := fun c hc => htrail.breaks.not_isDigit hc
    conv_rhs => rw [hl, List.append_assoc, readNumber_blank_append hlead, readNumber_append hne hstop]

/-- A token that begins with a number is read as that number, unless it is too large. -/
private theorem BeginsWith.readNumber_eq {n : Int} {token : List Char} (h : BeginsWith n token) :
    readNumber token = if n.natAbs ≤ maxNumber then some n else none := by
  obtain @⟨lead, sign, run, rest, hlead, hsign, hne, hrun, hrest⟩ := h
  have hvalue : signedValue sign run = if sign = ['-'] then -(digitsValue run : Int) else digitsValue run := by
    rw [digitsValue_eq_ofDigits]
    rfl
  have habs : (signedValue sign run).natAbs = digitsValue run := by
    rw [hvalue]
    split <;> simp
  rw [readNumber_blank_append hlead, readNumber_run hsign hne hrun hrest, habs, hvalue]

private theorem exists_sign (l : List Char) :
    ∃ sign, l = sign ++ afterSign l ∧ (sign = [] ∨ sign = ['+'] ∨ sign = ['-']) ∧
      (l.head? = some '-' ↔ sign = ['-']) := by
  unfold afterSign
  split
  · exact ⟨['-'], rfl, .inr (.inr rfl), by simp⟩
  · exact ⟨['+'], rfl, .inr (.inl rfl), by simp⟩
  · rename_i hminus _
    refine ⟨[], rfl, .inl rfl, ?_⟩
    rw [List.head?_eq_some_iff]
    simpa using hminus

/-- What is read as a number begins with it. -/
private theorem beginsWith_of_readNumber {n : Int} {token : List Char} (h : readNumber token = some n) :
    BeginsWith n token := by
  obtain ⟨sign, hsplit, hsign, hminus⟩ := exists_sign (trimStart token)
  simp only [readNumber] at h
  split at h
  · cases h
  · rename_i hne
    split at h
    · have htoken : token = token.takeWhile isBlank ++ (sign ++ (afterSign (trimStart token)).takeWhile isDigit ++
          (afterSign (trimStart token)).dropWhile isDigit) := by
        rw [List.append_assoc, List.takeWhile_append_dropWhile, ← hsplit, trimStart, List.takeWhile_append_dropWhile]
      have hn : n = signedValue sign ((afterSign (trimStart token)).takeWhile isDigit) := by
        rw [← Option.some.inj h, signedValue, digitsValue_eq_ofDigits]
        simp only [hminus]
      rw [htoken, hn]
      refine .intro (fun c hc => List.mem_takeWhile_imp hc) hsign (by simpa using hne)
        (fun c hc => List.mem_takeWhile_imp hc) ?_
      intro c hc
      have hstop := List.head?_dropWhile_not isDigit (afterSign (trimStart token))
      rw [hc] at hstop
      simpa using hstop
    · cases h

theorem readNumber_eq_some_iff {n : Int} {token : List Char} :
    readNumber token = some n ↔ BeginsWith n token ∧ n.natAbs ≤ maxNumber := by
  constructor
  · intro h
    exact ⟨beginsWith_of_readNumber h, natAbs_le_of_readNumber h⟩
  · rintro ⟨h, hmax⟩
    rw [h.readNumber_eq, if_pos hmax]

theorem readNumber_eq_none_iff {token : List Char} :
    readNumber token = none ↔ (∀ n, ¬ BeginsWith n token) ∨ ∃ n, BeginsWith n token ∧ maxNumber < n.natAbs := by
  constructor
  · intro h
    by_cases hbegins : ∃ n, BeginsWith n token
    · obtain ⟨n, hn⟩ := hbegins
      refine .inr ⟨n, hn, Nat.not_le.1 ?_⟩
      intro hmax
      rw [readNumber_eq_some_iff.2 ⟨hn, hmax⟩] at h
      cases h
    · exact .inl (not_exists.1 hbegins)
  · rintro (hnone | ⟨n, hn, hmax⟩)
    · rw [Option.eq_none_iff_forall_not_mem]
      intro n hn
      exact hnone n (beginsWith_of_readNumber hn)
    · rw [hn.readNumber_eq, if_neg (Nat.not_le.2 hmax)]

private theorem numeral_decimal (n : Int) : Numeral n (decimal n).toList := by
  cases n with
  | ofNat m =>
    rw [decimal, String.toList_ofList]
    exact .plain m 0
  | negSucc m =>
    rw [decimal, String.toList_ofList]
    exact .minus (m + 1) 0 (Nat.succ_pos m)

/-- A token is read as a number of 64 bits exactly if it begins with that number and it is not the least one; it is
refused if it begins with no number, or with one out of that range. -/
theorem read_number_iff (token : String) (n : Int) :
    (ParameterType.number.read token = some (.number n) ↔
        BeginsWith n token.toList ∧ Int64.minValue.toInt < n ∧ n ≤ Int64.maxValue.toInt) ∧
      (ParameterType.number.read token = none ↔
        (∀ m, ¬ BeginsWith m token.toList) ∨
          ∃ m, BeginsWith m token.toList ∧ ¬ (Int64.minValue.toInt < m ∧ m ≤ Int64.maxValue.toInt)) ∧
      (Int64.minValue.toInt < n ∧ n ≤ Int64.maxValue.toInt →
        ParameterType.number.read (decimal n) = some (.number n)) := by
  have hleast : Int64.minValue.toInt = -0x8000000000000000 := by decide
  have hgreatest : Int64.maxValue.toInt = 0x7FFFFFFFFFFFFFFF := by decide
  have hrange (m : Int) : m.natAbs ≤ maxNumber ↔ Int64.minValue.toInt < m ∧ m ≤ Int64.maxValue.toInt := by
    rw [hleast, hgreatest, maxNumber]
    omega
  simp only [← hrange, Nat.not_le]
  refine ⟨?_, ?_, ?_⟩
  · rw [← readNumber_eq_some_iff]
    simp [ParameterType.read]
  · rw [← readNumber_eq_none_iff]
    simp [ParameterType.read]
  · intro hmax
    have hread : readNumber ((decimal n).toList ++ []) = some n :=
      (numeral_decimal n).readNumber_append hmax (fun c hc => by cases hc)
    rw [List.append_nil] at hread
    simp [ParameterType.read, hread]

/-- The least number of 64 bits is not read. -/
theorem read_least :
    BeginsWith Int64.minValue.toInt "-9223372036854775808".toList ∧
      ParameterType.number.read "-9223372036854775808" = none := by
  refine ⟨?_, by decide⟩
  have hrun : ∀ c ∈ "9223372036854775808".toList, isDigit c = true := List.all_eq_true.1 (by decide)
  have hvalue : signedValue ['-'] "9223372036854775808".toList = Int64.minValue.toInt := by
    rw [signedValue, ← digitsValue_eq_ofDigits]
    decide
  have hbegins : BeginsWith (signedValue ['-'] "9223372036854775808".toList)
      ([] ++ (['-'] ++ "9223372036854775808".toList ++ [])) :=
    .intro blank_nil (.inr (.inr rfl)) (by decide) hrun (fun c hc => by cases hc)
  rw [hvalue] at hbegins
  exact hbegins

end Stockroom
