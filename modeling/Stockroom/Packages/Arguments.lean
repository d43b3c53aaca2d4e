import Stockroom.Settings.Flags

/-!
# Arguments

Reads the arguments of a command line as flags.  A flag with a value takes it after `=` or from the next argument, which
must not look like a flag itself.  A value is judged when the next flag or the end is reached, so a later argument
that is no flag at all is reported first.
-/

namespace Stockroom

/-- What the command line asks for. -/
inductive Request where
  | start (flags : Flags)
  | help
  | version
  deriving DecidableEq, Repr

inductive FlagFault where
  /-- An argument that is neither a flag nor the value of one. -/
  | unknown
  /-- A value that is missing or that may not be empty. -/
  | badValue
  /-- The same flag twice. -/
  | repeated
  /-- A value for a flag that takes none. -/
  | needlessValue
  deriving DecidableEq, Repr

def FlagFault.message : FlagFault → String
  | unknown => "error: unexpected argument"
  | badValue => "error: a value is required"
  | repeated => "error: a flag cannot be used multiple times"
  | needlessValue => "error: unexpected value"

/-- The flags that take a value. -/
inductive ValueFlag where
  | config
  | historyFile
  | script
  | prompt
  deriving DecidableEq, Repr

inductive Flag where
  | withValue (flag : ValueFlag)
  | noHistory
  | help
  | version
  deriving DecidableEq, Repr

def Flag.ofName? (name : String) : Option Flag :=
  match name with
  | "config" => some (.withValue .config)
  | "history-file" => some (.withValue .historyFile)
  | "no-history" => some .noHistory
  | "script" => some (.withValue .script)
  | "prompt" => some (.withValue .prompt)
  | "help" => some .help
  | "version" => some .version
  | _ => none

def Flag.ofLetter? : Char → Option Flag
  | 'h' => some .help
  | 'V' => some .version
  | _ => none

namespace Flags

/-! ### Values -/

def get? (f : Flags) : ValueFlag → Option String
  | .config => f.config
  | .historyFile => f.historyFile
  | .script => f.script
  | .prompt => f.prompt

def put (f : Flags) (value : String) : ValueFlag → Flags
  | .config => { f with config := some value }
  | .historyFile => { f with historyFile := some value }
  | .script => { f with script := some value }
  | .prompt => { f with prompt := some value }

/-- Gives a flag its value, once; only a prompt may be empty. -/
def give (f : Flags) (flag : ValueFlag) (value : String) : Except FlagFault Flags :=
  if (f.get? flag).isSome then .error .repeated
  else if value = "" ∧ flag ≠ .prompt then .error .badValue
  else .ok (f.put value flag)

/-- The last flag, if it takes its value from the next argument, with the value once that has been read. -/
abbrev Waiting := Option (ValueFlag × Option String)

/-- Judges the flag that was waiting for its value. -/
def settle (f : Flags) : Waiting → Except FlagFault Flags
  | none => .ok f
  | some (_, none) => .error .badValue
  | some (flag, some value) => f.give flag value

/-! ### Arguments -/

/-- How an argument looks. -/
inductive Shape where
  /-- Two dashes: no flags follow. -/
  | dashes
  | long (name : String) (value : Option String)
  /-- A letter after one dash; what follows it makes no difference. -/
  | short (letter : Char)
  | plain

def shape (arg : String) : Shape :=
  match arg.toList with
  | ['-', '-'] => .dashes
  | '-' :: '-' :: l =>
    .long (String.ofList (l.takeWhile (· ≠ '=')))
      (match l.dropWhile (· ≠ '=') with
        | [] => none
        | _ :: value => some (String.ofList value))
  | '-' :: letter :: _ => .short letter
  | _ => .plain

/-- Reads the arguments on from the flags so far. -/
def readFrom (f : Flags) (waiting : Waiting) : List String → Except FlagFault Request
  | [] => do return .start (← f.settle waiting)
  | arg :: rest =>
    match shape arg with
    | .dashes => do
      if rest ≠ [] then throw .unknown
      return .start (← f.settle waiting)
    | .long name value =>
      match Flag.ofName? name, value with
      | none, _ => .error .unknown
      | some (.withValue flag), some value => do
        readFrom (← (← f.settle waiting).give flag value) none rest
      | some (.withValue flag), none => do
        readFrom (← f.settle waiting) (some (flag, none)) rest
      | some _, some _ => .error .needlessValue
      | some .noHistory, none => do
        let f ← f.settle waiting
        if f.noHistory then throw .repeated
        readFrom { f with noHistory := true } none rest
      | some .help, none => do
        let _ ← f.settle waiting
        return .help
      | some .version, none => do
        let _ ← f.settle waiting
        return .version
    | .short letter =>
      match Flag.ofLetter? letter with
      | some .help => do
        let _ ← f.settle waiting
        return .help
      | some .version => do
        let _ ← f.settle waiting
        return .version
      | _ => .error .unknown
    | .plain =>
      match waiting with
      | some (flag, none) => readFrom f (some (flag, some arg)) rest
      | _ => .error .unknown

/-- Reads a command line; without a script among the flags, the test file is the script. -/
def read (testFile : Option String) (args : List String) : Except FlagFault Request := do
  match ← readFrom {} none args, testFile with
  | .start f, some file => if f.script.isSome then return .start f else return .start (← f.give .script file)
  | request, _ => return request

end Flags

end Stockroom
