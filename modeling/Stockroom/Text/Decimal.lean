/-!
# Decimal numbers

`digits` and `decimal` write numbers without leading zeros, and `digitsValue` reads a run of digits.  Reading what was
written gives the number back (`digitsValue_digits`), so no two numbers are written alike (`decimal_injective`).
-/

namespace Stockroom.Text

def isDigit (c : Char) : Bool :=
  '0'.toNat ≤ c.toNat && c.toNat ≤ '9'.toNat

def digitChar (d : Nat) : Char :=
  Char.ofNat ('0'.toNat + d)

def digitValue (c : Char) : Nat :=
  c.toNat - '0'.toNat

/-- The digits of a natural number, most significant first. -/
def digits (n : Nat) : List Char :=
  if n < 10 then [digitChar n] else digits (n / 10) ++ [digitChar (n % 10)]

/-- The value of a run of digits. -/
def digitsValue (l : List Char) : Nat :=
  l.foldl (fun n c => 10 * n + digitValue c) 0

/-- A number in decimal, with a sign only if it is negative. -/
def decimal : Int → String
  | .ofNat n => String.ofList (digits n)
  | .negSucc n => String.ofList ('-' :: digits (n + 1))

/-! ### Reading what was written -/

theorem digitValue_digitChar {d : Nat} (h : d < 10) : digitValue (digitChar d) = d := by
  have : ∀ d < 10, digitValue (digitChar d) = d := by decide
  exact this d h

theorem isDigit_digitChar {d : Nat} (h : d < 10) : isDigit (digitChar d) = true := by
  have : ∀ d < 10, isDigit (digitChar d) = true := by decide
  exact this d h

theorem digits_ne_nil (n : Nat) : digits n ≠ [] := by
  rw [digits]
  split <;> simp

theorem isDigit_of_mem_digits {n : Nat} {c : Char} (hc : c ∈ digits n) : isDigit c = true := by
  rw [digits] at hc
  split at hc
  · rename_i h
    rw [List.mem_singleton.1 hc]
    exact isDigit_digitChar h
  · rcases List.mem_append.1 hc with hc | hc
    · exact isDigit_of_mem_digits hc
    · rw [List.mem_singleton.1 hc]
      exact isDigit_digitChar (by omega)
termination_by n

theorem digitsValue_append_singleton (l : List Char) (c : Char) :
    digitsValue (l ++ [c]) = 10 * digitsValue l + digitValue c := by
  simp [digitsValue]

theorem digitsValue_digits (n : Nat) : digitsValue (digits n) = n := by
  rw [digits]
  split
  · rename_i h
    simp [digitsValue, digitValue_digitChar h]
  · rw [digitsValue_append_singleton, digitsValue_digits (n / 10), digitValue_digitChar (by omega)]
    omega
termination_by n

/-! ### What a written number consists of -/

theorem mem_decimal {n : Int} {c : Char} (hc : c ∈ (decimal n).toList) : c = '-' ∨ isDigit c = true := by
  cases n with
  | ofNat m =>
    rw [decimal, String.toList_ofList] at hc
    exact .inr (isDigit_of_mem_digits hc)
  | negSucc m =>
    rw [decimal, String.toList_ofList] at hc
    exact (List.mem_cons.1 hc).imp_right isDigit_of_mem_digits

theorem digits_injective {m n : Nat} (h : digits m = digits n) : m = n := by
  rw [← digitsValue_digits m, h, digitsValue_digits]

/-- Digits do not begin with a sign. -/
private theorem digits_ne_minus_cons (n : Nat) (l : List Char) : digits n ≠ '-' :: l := by
  intro h
  have hminus : isDigit '-' = true := isDigit_of_mem_digits (h ▸ List.mem_cons_self)
  exact absurd hminus (by decide)

theorem decimal_injective {m n : Int} (h : decimal m = decimal n) : m = n := by
  cases m with
  | ofNat m =>
    cases n with
    | ofNat n => exact congrArg Int.ofNat (digits_injective (String.ofList_injective h))
    | negSucc n => exact absurd (String.ofList_injective h) (digits_ne_minus_cons m _)
  | negSucc m =>
    cases n with
    | ofNat n => exact absurd (String.ofList_injective h).symm (digits_ne_minus_cons n _)
    | negSucc n =>
      have hdigits : digits (m + 1) = digits (n + 1) := (List.cons.inj (String.ofList_injective h)).2
      exact congrArg Int.negSucc (Nat.succ.inj (digits_injective hdigits))

end Stockroom.Text
