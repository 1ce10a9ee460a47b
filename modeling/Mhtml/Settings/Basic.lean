import Mhtml.Files
import Mhtml.Settings.CommandLine
import Mhtml.Settings.Toml

/-!
# Settings

Settings come from the command line, from a file, and otherwise from defaults,
in this order of precedence. A file named on the command line has to be there;
the user's own file is read only if it exists (specification, section D).
-/

namespace Mhtml

/-- Why there are no settings to work with. -/
inductive SettingsError where
  /-- The file is not there or is no text. -/
  | unreadable (path : String)
  /-- The file does not have the form of a settings file. -/
  | invalid (path : String)
  /-- Nesting would not be checked at all. -/
  | zeroDepth
deriving DecidableEq, Repr

/-- The wording of an error. -/
def SettingsError.message : SettingsError → String
  | unreadable path => "Failed to read config file " ++ path
  | invalid path => "Invalid config file " ++ path
  | zeroDepth => "max_nesting_depth must be at least 1"

/-- What a settings file says. -/
structure FileSettings where
  /-- What is logged. -/
  logLevel? : Option String := none
  /-- The level down to which nesting is checked. -/
  maxDepth? : Option Nat := none
deriving DecidableEq, Repr

namespace FileSettings

/-- Adds an entry of a settings file, each key once and with a value of its kind. -/
def add? (f : FileSettings) : String × Toml.Value → Option FileSettings
  | ("log_level", .string s) =>
    if f.logLevel?.isSome then none else some { f with logLevel? := some s }
  | ("max_nesting_depth", .integer n) =>
    if f.maxDepth?.isSome || n < 0 || n > CommandLine.maxNumber then none
    else some { f with maxDepth? := some n.toNat }
  | _ => none

/-- Reads the text of a settings file. -/
def parse? (text : String) : Option FileSettings := do
  (← Toml.parse? text.toList).foldlM add? {}

/-- Reads a settings file that has to be there. -/
def load (files : Files) (path : String) : Except SettingsError FileSettings :=
  match (files path).text? with
  | none => throw (.unreadable path)
  | some text =>
    match parse? text with
    | some settings => return settings
    | none => throw (.invalid path)

end FileSettings

/-- The settings that a program works with. -/
structure Settings where
  /-- What is logged. -/
  logLevel : String := "info"
  /-- The level down to which nesting is checked. -/
  maxDepth : Nat := defaultDepthLimit
  /-- The settings file that was read. -/
  file? : Option String := none
deriving DecidableEq, Repr

namespace Settings

/-- The user's own settings file below the directory for such files. -/
def userFileIn (directory : String) : String :=
  directory ++ "/mhtml-ls/config.toml"

/-- The settings file to read: the one named, or the user's own if there is one. -/
def filePath? (files : Files) (userFile? : Option String) (options : Options) : Option String :=
  options.config?.or (userFile?.filter fun path => (files path).isFile)

/-- The settings from the command line and the settings file. -/
def load (files : Files) (userFile? : Option String) (options : Options) :
    Except SettingsError Settings := do
  let file? := filePath? files userFile? options
  let fromFile ← match file? with
    | some path => FileSettings.load files path
    | none => pure {}
  let maxDepth := (options.maxDepth?.or fromFile.maxDepth?).getD defaultDepthLimit
  if maxDepth = 0 then throw .zeroDepth
  return { logLevel := (options.logLevel?.or fromFile.logLevel?).getD "info", maxDepth, file? }

end Settings

end Mhtml
