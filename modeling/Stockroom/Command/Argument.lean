import Stockroom.Command.Grammar
import Stockroom.Fault
import Stockroom.Text.Blank
import Stockroom.Text.Decimal

/-!
# Checking arguments

The tokens of a line are checked against the parameters of its command, position by position.  Every failing
parameter gives one reason; tokens beyond the parameters are ignored.  The values that pass are kept under the names
of their parameters (`Arguments`).

`validate` does this in one pass, which also keeps track of whether all parameters passed.  What it collects is the list
`checkArguments`, given by recursion on the parameters, and its arguments are those of that list
(`arguments_validate`).
-/

namespace Stockroom

open Text

inductive Value where
  | text (s : String)
  | number (n : Int)
  deriving DecidableEq, Repr

/-! ### Numbers in tokens -/

/-- The largest magnitude of a number that a token can hold. -/
def maxNumber : Nat := 0x7FFFFFFFFFFFFFFF

/-- The text after one optional sign. -/
def afterSign : List Char → List Char
  | '-' :: l => l
  | '+' :: l => l
  | l => l

/-- Reads the number at the beginning of a token: blanks, an optional sign and a run of digits.  What follows the
digits is ignored. -/
def readNumber (token : List Char) : Option Int :=
  let signed := trimStart token
  let run := (afterSign signed).takeWhile isDigit
  if run.isEmpty then none
  else if digitsValue run ≤ maxNumber then
    some (if signed.head? = some '-' then -(digitsValue run : Int) else digitsValue run)
  else none

/-- The value of a token as the given type; every token is a text. -/
def ParameterType.read (type : ParameterType) (token : String) : Option Value :=
  match type with
  | text => some (.text token)
  | number => (readNumber token.toList).map .number

/-! ### Checking each parameter -/

/-- Why a parameter failed. -/
inductive ArgumentFault where
  | missing (name : String)
  | wrongType (type : ParameterType) (name : String)
  deriving DecidableEq, Repr

def ArgumentFault.reason : ArgumentFault → String
  | missing name => "Missing required argument: [" ++ name ++ "]"
  | wrongType type name => "Expected a " ++ type.name ++ " for [" ++ name ++ "]"

/-- What came of one parameter. -/
inductive Checked where
  | valid (name : String) (value : Value)
  | invalid (fault : ArgumentFault)
  deriving DecidableEq, Repr

namespace Checked

def isValid : Checked → Bool
  | valid .. => true
  | invalid _ => false

def get? : Checked → Option (String × Value)
  | valid name value => some (name, value)
  | invalid _ => none

def fault? : Checked → Option ArgumentFault
  | valid .. => none
  | invalid fault => some fault

end Checked

/-- Checks a parameter against its token. -/
def Parameter.check (p : Parameter) (token : String) : Checked :=
  match p.type.read token with
  | some value => .valid p.name value
  | none => .invalid (.wrongType p.type p.name)

/-- Checks the parameters in order.  An optional parameter without a token leaves no trace. -/
def checkArguments : List Parameter → List String → List Checked
  | [], _ => []
  | p :: ps, [] => if p.required then .invalid (.missing p.name) :: checkArguments ps [] else checkArguments ps []
  | p :: ps, token :: rest => p.check token :: checkArguments ps rest

/-! ### The arguments that passed -/

/-- The values of a command's parameters, in their order. -/
structure Arguments where
  entries : List (String × Value)
  deriving DecidableEq, Repr

namespace Arguments

/-- The arguments if every parameter passed, and the reasons of those that did not otherwise. -/
def ofChecked (results : List Checked) : Except Fault Arguments :=
  if results.all Checked.isValid then .ok ⟨results.filterMap Checked.get?⟩
  else .error (.invalidArguments ((results.filterMap Checked.fault?).map ArgumentFault.reason))

/-- The first value of that name. -/
def get? (args : Arguments) (name : String) : Option Value :=
  args.entries.lookup name

def text? (args : Arguments) (name : String) : Option String :=
  match args.get? name with
  | some (.text s) => some s
  | _ => none

def number? (args : Arguments) (name : String) : Option Int :=
  match args.get? name with
  | some (.number n) => some n
  | _ => none

def unchecked (name : String) : Fault :=
  .internal ("argument [" ++ name ++ "] was not validated")

def text (args : Arguments) (name : String) : Except Fault String :=
  match args.text? name with
  | some s => .ok s
  | none => .error (unchecked name)

def number (args : Arguments) (name : String) : Except Fault Int :=
  match args.number? name with
  | some n => .ok n
  | none => .error (unchecked name)

end Arguments

/-! ### The check as one pass -/

/-- What came of the parameters so far, and whether all of them passed. -/
structure Validation where
  allValid : Bool := true
  results : List Checked := []
  deriving DecidableEq, Repr

namespace Validation

def pass (v : Validation) (name : String) (value : Value) : Validation :=
  { v with results := v.results ++ [.valid name value] }

def fail (v : Validation) (fault : ArgumentFault) : Validation :=
  { allValid := false, results := v.results ++ [.invalid fault] }

/-- Goes on with the parameters in order, each with the token in its place. -/
def check : Validation → List Parameter → List String → Validation
  | v, [], _ => v
  | v, p :: ps, [] => (if p.required then v.fail (.missing p.name) else v).check ps []
  | v, p :: ps, token :: rest =>
    match p.type.read token with
    | some value => (v.pass p.name value).check ps rest
    | none => (v.fail (.wrongType p.type p.name)).check ps rest

/-- The values by name if all parameters passed, and the reasons of those that did not otherwise. -/
def arguments (v : Validation) : Except Fault Arguments :=
  if v.allValid then .ok ⟨v.results.filterMap Checked.get?⟩
  else .error (.invalidArguments ((v.results.filterMap Checked.fault?).map ArgumentFault.reason))

end Validation

/-- Checks the tokens of a command against its parameters. -/
def validate (parameters : List Parameter) (tokens : List String) : Validation :=
  Validation.check {} parameters tokens

/-! ### The pass collects the outcome of each parameter -/

theorem Validation.check_eq (v : Validation) (ps : List Parameter) (tokens : List String) :
    v.check ps tokens =
      ⟨v.allValid && (checkArguments ps tokens).all Checked.isValid, v.results ++ checkArguments ps tokens⟩ := by
  induction ps generalizing v tokens with
  | nil => simp [check, checkArguments]
  | cons p ps ih =>
    cases tokens with
    | nil =>
      rw [check, ih, checkArguments]
      split <;> simp [fail, Checked.isValid]
    | cons token rest =>
      rw [check, checkArguments, Parameter.check]
      cases p.type.read token with
      | some value => simp [ih, pass, Checked.isValid]
      | none => simp [ih, fail, Checked.isValid]

theorem validate_eq (ps : List Parameter) (tokens : List String) :
    validate ps tokens = ⟨(checkArguments ps tokens).all Checked.isValid, checkArguments ps tokens⟩ :=
  Validation.check_eq {} ps tokens

theorem arguments_validate (ps : List Parameter) (tokens : List String) :
    (validate ps tokens).arguments = Arguments.ofChecked (checkArguments ps tokens) := by
  rw [validate_eq]
  rfl

end Stockroom
