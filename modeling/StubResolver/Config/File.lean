/-
This file says where settings come from and where they go. A file that is named has to be there;
without a name, a file in the current directory is looked for, and then one of the system, and when
neither is there the defaults hold. What files there are, and what becomes of a file that is
written, is known by functions that are given.
-/

import StubResolver.Config.Printer
import StubResolver.Config.Reader
import StubResolver.Config.Validation

namespace StubResolver

/-! ### Files -/

/-- Why a file cannot be read or written. -/
inductive FileFault where
  | missing
  | directory
deriving DecidableEq, Repr

/-- The wording of a fault. -/
def FileFault.message : FileFault → String
  | missing => "No such file or directory (os error 2)"
  | directory => "Is a directory (os error 21)"

/-- What is known of files: the text under a path, or why there is none. -/
abbrev Files := String → Except FileFault String

/-- Whether there is something under a path. -/
def Files.has (files : Files) (path : String) : Bool :=
  match files path with
  | .error .missing => false
  | _ => true

/-! ### Faults -/

/-- Why settings cannot be used, read or saved. -/
inductive ConfigFault where
  | unreadable (path : String) (fault : FileFault)
  | unwritable (path : String) (fault : FileFault)
  /-- A text is no document, or has a setting of the wrong kind. -/
  | malformed
  | flawed (flaw : ConfigFlaw)
deriving DecidableEq

/-- The wording of a fault. What is wrong with a malformed text is not told. -/
def ConfigFault.message : ConfigFault → String
  | unreadable path fault => "Failed to read config file " ++ path ++ ": " ++ fault.message
  | unwritable path fault => "Failed to write config file " ++ path ++ ": " ++ fault.message
  | malformed => "Failed to parse config"
  | flawed flaw => "Configuration validation error: " ++ flaw.message

namespace Config

/-- Reads settings. -/
def parse (text : String) : Except ConfigFault Config :=
  match parse? text with
  | some config => .ok config
  | none => .error .malformed

/-- Tells whether settings make sense. -/
def validate (config : Config) : Except ConfigFault Unit :=
  match config.flaw? with
  | some flaw => .error (.flawed flaw)
  | none => .ok ()

/-! ### Loading and saving -/

/-- The file in the current directory. -/
def localPath : String := "ferrous-resolv.toml"

/-- The file of the system. -/
def systemPath : String := "/etc/ferrous-resolv/config.toml"

/-- The file that is there, if no other is named. -/
def path? (files : Files) : Option String := [localPath, systemPath].find? files.has

/-- The settings of a file. -/
def ofFile (files : Files) (path : String) : Except ConfigFault Config :=
  match files path with
  | .ok text => parse text
  | .error fault => .error (.unreadable path fault)

/-- The settings of the file that is named, of the file that is there, or the defaults. -/
def load (files : Files) (named : Option String) : Except ConfigFault Config :=
  match named.or (path? files) with
  | some path => ofFile files path
  | none => .ok .default

/-- Writes the settings to a file, where `write` tells what becomes of a text under a path. -/
def save {Result : Type} (write : String → String → Except FileFault Result) (config : Config)
    (path : String) : Except ConfigFault Result :=
  match write path config.text with
  | .ok result => .ok result
  | .error fault => .error (.unwritable path fault)

end Config

end StubResolver
