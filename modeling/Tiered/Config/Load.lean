import Tiered.Config.Basic
import Tiered.Files.Access
import Tiered.Toml.Reader

/-!
# Load — configurations from a file

A configuration file is a TOML document whose entries take the place of the defaults.  Where there
is no file the defaults stand alone.
-/

namespace Tiered.Config

/-- The path of the configuration file where none is given. -/
def defaultPath : String := "config/scriptvars.toml"

/-- The table in the octets of a configuration file. -/
def parseToml (octets : Text.Utf8.Octets) : Except Failure Entries :=
  match Text.Utf8.decode octets with
  | .error fault => .error (.encoding fault)
  | .ok cs => match Toml.read cs with
    | .ok es => .ok es
    | .error (.malformed what place) => .error (.toml what place)
    | .error (.overlong digits) => .error (.overlong (some digits))

/-- The defaults with the given entries written over them. -/
def overDefaults (es : Entries) : Entries := defaults.putAll es

variable [Validator]

/-- The configuration in the file at a path. -/
def loadAt (d : Files.Disk) (path : Text) : Except Failure Config :=
  if !d.holds path then ofEntries defaults
  else match d.readFile path with
    | .error fault => .error (.files fault)
    | .ok octets => (parseToml octets).bind fun es => ofEntries (overDefaults es)

/-- The configuration in the file with a number; no file is open under any number. -/
def loadNumbered (n : Int) : Except Failure Config :=
  if (Nat.pow 2 31 : Int) ≤ n then .error (.noFileNumber "fd is greater than maximum")
  else if n < -(Nat.pow 2 31 : Int) then .error (.noFileNumber "fd is less than minimum")
  else ofEntries defaults

/-- The configuration in a file, which is given by a path or by the number of an open file. -/
def load (d : Files.Disk) (file : Value) : Except Failure Config :=
  match file with
  | .text path => loadAt d path
  | .octets bytes => match Text.Utf8.decode bytes with
    | .ok cs => loadAt d (.ofChars cs)
    | .error _ => ofEntries defaults
  | .int n => loadNumbered n
  | .bool b => loadNumbered (Value.ofBool b)
  | v => .error (.noPath
      ("stat: path should be string, bytes, os.PathLike or integer, not " ++ v.kind))

end Tiered.Config
