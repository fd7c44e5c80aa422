import Ramp.Config.Document
import Ramp.Config.Validity
import Ramp.Toml.Read

/-!
# `Config.Layers` — where the settings come from

Settings come in four layers, each above the one before: the defaults, a file, the environment and
the command line. A file that is named must be there; the default file may be missing. Settings are
checked when all layers are in.

## Contents
- `Config.ofToml`, `Config.ofFile`: settings from a text and from a file.
- `Config.base`: the file layer; `Config.resolve`: with the environment above it.
- `Config.load`: with the command line on top, checked.
-/

namespace Ramp

namespace Config

/-- Reads settings out of a TOML text. -/
def ofToml (text : String) : Except Fault Config :=
  match Toml.read text with
  | some document => ofDocument .toml document
  | none => .error .malformed

/-- Reads settings out of a file. -/
def ofFile (disk : Disk) (path : String) : Except Error Config :=
  match disk.read path with
  | .error why => .error (.config (.unreadable path why))
  | .ok text => (ofToml text).mapError .toml

/-- The file that is read if no other one is named. -/
def defaultPath : String := "seqfill.toml"

/-- The settings of the named file, or else of the default file, or else the defaults. -/
def base (disk : Disk) (path : Option String) (default : String) : Except Error Config :=
  match path with
  | some path => ofFile disk path
  | none => if disk.has default then ofFile disk default else .ok {}

/-- The file layer with the environment above it. -/
def resolve (disk : Disk) (path : Option String) (default : String) (environment : Lookup) :
    Except Error Config := do
  (← base disk path default).overridden .environment environment

/-- All layers, checked. -/
def load (disk : Disk) (path : Option String) (default : String)
    (environment commandLine : Lookup) : Except Error Config := do
  let config ← resolve disk path default environment
  let config ← config.overridden .commandLine commandLine
  config.validate
  return config

end Config

end Ramp
