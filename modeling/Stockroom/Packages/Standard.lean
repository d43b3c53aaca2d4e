import Stockroom.Packages.Arguments
import Stockroom.Packages.Basic
import Stockroom.Packages.Config
import Stockroom.Packages.Log.Filter
import Stockroom.Packages.Usage

/-!
# The readers of the executable

`Packages.standard` are the readers that the executable runs with.  They stand in for packages that are not described
here, so that the program runs.  Nothing that is proved of the program depends on them.
-/

namespace Stockroom.Packages

open Text

def standardArguments (reference : String) (testFile : Option String) (args : List String) : CommandLine :=
  match Flags.read testFile args with
  | .ok (.start flags) => .started flags
  | .ok .help => .ended 0 (utf8 (Usage.help reference testFile).toList) []
  | .ok .version => .ended 0 (utf8 Usage.version.toList) []
  | .error f => .ended 2 [] (utf8 (f.message ++ "\n").toList)

def standardFilter (text : String) : FilterReading :=
  match DirectiveFilter.readStrictly text with
  | .ok filter => .accepted filter.passes
  | .error .malformed => .refused
  | .error .torn => .torn

def standardLevel (text : String) : Option LogFilter :=
  (DirectiveFilter.read text).map (·.passes)

def standard : Packages where
  readArguments := standardArguments
  readSettings := Config.read
  readFilter := standardFilter
  readLevel := standardLevel

end Stockroom.Packages
