import Stockroom.Text.Decimal
import Stockroom.Text.Pieces
import Stockroom.Packages.Toml.Node

/-!
# Numbers, dates and truth values

A scalar without quotes is a run of characters up to the next delimiter; `Scalar.read` says what node it stands for.
Digits may be grouped by single underscores.  Integers must fit 64 bits with sign.  A positive float must not round to
infinity, which begins halfway between the largest finite double and the next power of two.
-/

namespace Stockroom.Toml.Scalar

open Text

/-- The digits of a run in which single underscores may stand between digits. -/
def grouped? (digit : Char → Bool) (run : List Char) : Option (List Char) :=
  let groups := pieces (· == '_') run
  if groups.all fun g => !g.isEmpty && g.all digit then some groups.flatten else none

/-- The digits of a decimal whole number, which has no superfluous zero in front. -/
def whole? (run : List Char) : Option (List Char) :=
  match grouped? isDigit run with
  | some ('0' :: _ :: _) => none
  | ds => ds

/-! ### Integers -/

/-- Integers lie below this bound, and negative ones not below its opposite. -/
def integerBound : Nat := 0x8000000000000000

def hexValue (c : Char) : Nat :=
  if isDigit c then digitValue c
  else if 'a'.toNat ≤ c.toNat then c.toNat - 'a'.toNat + 10
  else c.toNat - 'A'.toNat + 10

def isHexDigit (c : Char) : Bool :=
  isDigit c || ('a'.toNat ≤ c.toNat && c.toNat ≤ 'f'.toNat) || ('A'.toNat ≤ c.toNat && c.toNat ≤ 'F'.toNat)

def isOctalDigit (c : Char) : Bool :=
  '0'.toNat ≤ c.toNat && c.toNat ≤ '7'.toNat

def isBinaryDigit (c : Char) : Bool :=
  c == '0' || c == '1'

def valueIn (base : Nat) (ds : List Char) : Nat :=
  ds.foldl (fun n c => base * n + hexValue c) 0

/-- An integer in another base, without sign. -/
def based? (base : Nat) (digit : Char → Bool) (run : List Char) : Option Node :=
  match grouped? digit run with
  | some ds => if valueIn base ds < integerBound then some (.integer (valueIn base ds)) else none
  | none => none

/-- The sign of a run, if it has one, and the rest. -/
def splitSign : List Char → Option Char × List Char
  | '-' :: l => (some '-', l)
  | '+' :: l => (some '+', l)
  | l => (none, l)

def decimal? (run : List Char) : Option Node :=
  let (sign, rest) := splitSign run
  match whole? rest with
  | none => none
  | some ds =>
    let n := digitsValue ds
    if sign = some '-' then (if n ≤ integerBound then some (.integer (-(n : Int))) else none)
    else if n < integerBound then some (.integer n) else none

def integer? : List Char → Option Node
  | '0' :: 'x' :: l => based? 16 isHexDigit l
  | '0' :: 'o' :: l => based? 8 isOctalDigit l
  | '0' :: 'b' :: l => based? 2 isBinaryDigit l
  | l => decimal? l

/-! ### Floats -/

/-- The least real number that rounds to infinity. -/
def infinityBound : Nat := Nat.pow 2 1024 - Nat.pow 2 970

/-- Whether `m * 10 ^ e` rounds to infinity.  Far from the bound the number of digits decides. -/
def overflows (m : Nat) (e : Int) : Bool :=
  if m = 0 then false
  else
    let magnitude : Int := (digits m).length + e
    if magnitude < 300 then false
    else if 320 < magnitude then true
    else if 0 ≤ e then infinityBound ≤ m * Nat.pow 10 e.toNat
    else infinityBound * Nat.pow 10 (-e).toNat ≤ m

/-- Splits a run at its first character that satisfies `p`. -/
def splitOnce (p : Char → Bool) (run : List Char) : List Char × Option (List Char) :=
  match run.dropWhile (!p ·) with
  | [] => (run, none)
  | _ :: rest => (run.takeWhile (!p ·), some rest)

/-- The digits after the point, none if there is no point. -/
def fraction? : Option (List Char) → Option (List Char)
  | none => some []
  | some run => grouped? isDigit run

/-- The exponent, zero if there is none. -/
def exponent? : Option (List Char) → Option Int
  | none => some 0
  | some run =>
    let (sign, rest) := splitSign run
    (grouped? isDigit rest).map fun ds =>
      if sign = some '-' then -(digitsValue ds : Int) else digitsValue ds

def float? (run : List Char) : Option Node :=
  let (sign, rest) := splitSign run
  if rest = "inf".toList ∨ rest = "nan".toList then some .float
  else
    let (mantissa, exponent) := splitOnce (fun c => c == 'e' || c == 'E') rest
    let (front, fraction) := splitOnce (· == '.') mantissa
    if exponent.isNone && fraction.isNone then none
    else match whole? front, fraction? fraction, exponent? exponent with
      | some ds, some fs, some e =>
        if sign ≠ some '-' ∧ overflows (digitsValue (ds ++ fs)) (e - fs.length) then none else some .float
      | _, _, _ => none

/-! ### Dates and times -/

/-- The value of a run of exactly `width` digits. -/
def fixed? (width : Nat) (run : List Char) : Option Nat :=
  if run.length = width ∧ run.all isDigit then some (digitsValue run) else none

def isLeapYear (year : Nat) : Bool :=
  year % 4 == 0 && (year % 100 != 0 || year % 400 == 0)

def daysInMonth (year month : Nat) : Nat :=
  if month = 2 then (if isLeapYear year then 29 else 28)
  else if month = 4 ∨ month = 6 ∨ month = 9 ∨ month = 11 then 30
  else 31

def isDate (run : List Char) : Bool :=
  match pieces (· == '-') run with
  | [y, m, d] =>
    match fixed? 4 y, fixed? 2 m, fixed? 2 d with
    | some year, some month, some day => 1 ≤ month && month ≤ 12 && 1 ≤ day && day ≤ daysInMonth year month
    | _, _, _ => false
  | _ => false

def isHourMinute (h m : List Char) : Bool :=
  match fixed? 2 h, fixed? 2 m with
  | some hour, some minute => hour ≤ 23 && minute ≤ 59
  | _, _ => false

/-- A time of day with seconds; a leap second is allowed. -/
def isTime (run : List Char) : Bool :=
  let (clock, fraction) := splitOnce (· == '.') run
  let fractionOk := match fraction with
    | none => true
    | some ds => !ds.isEmpty && ds.all isDigit
  match pieces (· == ':') clock with
  | [h, m, s] =>
    isHourMinute h m && fractionOk && match fixed? 2 s with
      | some second => second ≤ 60
      | none => false
  | _ => false

def isOffset (run : List Char) : Bool :=
  match pieces (· == ':') run with
  | [h, m] => isHourMinute h m
  | _ => false

/-- A time of day with or without an offset. -/
def isTimeWithOffset (run : List Char) : Bool :=
  match splitOnce (fun c => c == 'Z' || c == 'z') run with
  | (time, some []) => isTime time
  | (_, some _) => false
  | (_, none) =>
    match splitOnce (fun c => c == '+' || c == '-') run with
    | (time, some offset) => isTime time && isOffset offset
    | (_, none) => isTime run

/-- A date, a time, or a date and a time joined by `T` or a space. -/
def isMoment (run : List Char) : Bool :=
  match splitOnce (fun c => c == 'T' || c == 't' || c == ' ') run with
  | (date, some time) => isDate date && isTimeWithOffset time
  | (_, none) => isDate run || isTime run

/-! ### Any scalar -/

/-- The node of a scalar without quotes. -/
def read (run : List Char) : Option Node :=
  if run = "true".toList then some (.boolean true)
  else if run = "false".toList then some (.boolean false)
  else if isMoment run then some .moment
  else match integer? run with
    | some node => some node
    | none => float? run

end Stockroom.Toml.Scalar
