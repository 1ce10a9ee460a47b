import Mhtml.Text.Pieces
import Mhtml.Grammar.Validation

/-!
# Command lines

Words are taken from left to right. An option that takes a value is settled, and
its value looked at, only when the next option or path comes or the line ends;
until then it is pending. A word that is unknown ends the reading at once, before
what is pending is settled.
-/

namespace Mhtml

/-- The options that settings may come from. -/
structure Options where
  /-- A settings file to read in place of the user's own. -/
  config? : Option String := none
  /-- The level down to which nesting is checked. -/
  maxDepth? : Option Nat := none
  /-- What is logged. -/
  logLevel? : Option String := none
deriving DecidableEq, Repr

/-- Why a command line asks for no run. -/
inductive CommandError where
  /-- A word that the program does not know. -/
  | unknownArgument
  /-- An option without its value, or with an empty path. -/
  | invalidValue
  /-- A value that is no number of the right size. -/
  | notANumber
  /-- An option given twice. -/
  | repeatedOption
  /-- A value for an option that takes none. -/
  | unneededValue
  /-- No path although one is needed. -/
  | missingPath
  /-- A request for help. -/
  | help
  /-- A request for the version. -/
  | version
deriving DecidableEq, Repr

/-- What distinguishes the command lines of the two programs. -/
structure Tool where
  /-- The program's name. -/
  name : String
  /-- Whether it takes paths and the flag `--json`. -/
  takesPaths : Bool

namespace Tool

/-- The language server. -/
def server : Tool := ⟨"mhtml-ls", false⟩

/-- The checker. -/
def checker : Tool := ⟨"mhtml-check", true⟩

/-- The line that tells the program's version. -/
def versionLine (tool : Tool) : String :=
  tool.name ++ " 0.1.0"

end Tool

namespace CommandLine

/-- The options that take a value. -/
inductive ValueOption where
  | config
  | maxDepth
  | logLevel
deriving DecidableEq, Repr

/-- The options that take none. -/
inductive Flag where
  | json
  | help
  | version
deriving DecidableEq, Repr

/-- The option with a long name. -/
def longOption? (tool : Tool) : String → Option (ValueOption ⊕ Flag)
  | "config" => some (.inl .config)
  | "max-nesting-depth" => some (.inl .maxDepth)
  | "log-level" => some (.inl .logLevel)
  | "json" => if tool.takesPaths then some (.inr .json) else none
  | "help" => some (.inr .help)
  | "version" => some (.inr .version)
  | _ => none

/-- The option with a short name. -/
def shortOption? : Char → Option Flag
  | 'h' => some .help
  | 'V' => some .version
  | _ => none

/-- A word of a command line. -/
inductive Word where
  /-- The word `--`, which ends the options. -/
  | separator
  /-- A long option, with a value if an equals sign follows its name. -/
  | long (name : String) (value? : Option String)
  /-- A short option, and what follows its letter. -/
  | short (letter : Char) (rest : List Char)
  /-- Any other word. -/
  | plain (word : String)
deriving DecidableEq, Repr

/-- What a word looks like before the options have ended. -/
def Word.ofString (word : String) : Word :=
  match word.toList with
  | ['-', '-'] => separator
  | '-' :: '-' :: rest =>
    match rest.span (· != '=') with
    | (name, _ :: value) => long (String.ofList name) (some (String.ofList value))
    | (name, []) => long (String.ofList name) none
  | '-' :: letter :: rest => short letter rest
  | _ => plain word

/-- What has been taken in and not been looked at yet. -/
inductive Pending where
  /-- An option, with its value if that has come. -/
  | option (option : ValueOption) (value? : Option String)
  /-- Paths, the latest first. -/
  | paths (paths : List String)
deriving DecidableEq, Repr

/-- A command line as far as it has been read. -/
structure Reading where
  /-- The options settled. -/
  options : Options := {}
  /-- Whether the flag `--json` has come. -/
  json : Bool := false
  /-- The paths settled. -/
  paths : List String := []
  /-- What is pending. -/
  pending? : Option Pending := none
  /-- Whether the options have ended. -/
  ended : Bool := false
deriving DecidableEq, Repr

/-- The greatest number that a value may be. -/
def maxNumber : Nat := 0xFFFFFFFFFFFFFFFF

/-- The number written by a value: decimal digits after an optional plus sign. -/
def number? (value : String) : Option Nat :=
  let digits := match value.toList with
    | '+' :: digits => digits
    | digits => digits
  if digits.isEmpty then none else numberBelow? (maxNumber + 1) 10 digits

/-- Whether an option has a value already. -/
def isSet (o : Options) : ValueOption → Bool
  | .config => o.config?.isSome
  | .maxDepth => o.maxDepth?.isSome
  | .logLevel => o.logLevel?.isSome

/-- Gives an option its value. -/
def setOption (o : Options) (option : ValueOption) (value : String) :
    Except CommandError Options :=
  if isSet o option then throw .repeatedOption
  else
    match option with
    | .config => if value.isEmpty then throw .invalidValue else return { o with config? := some value }
    | .maxDepth =>
      match number? value with
      | some n => return { o with maxDepth? := some n }
      | none => throw .notANumber
    | .logLevel => return { o with logLevel? := some value }

namespace Reading

/-- Looks at what is pending. -/
def settle (r : Reading) : Except CommandError Reading :=
  match r.pending? with
  | none => return r
  | some (.option option value?) => do
    let some value := value? | throw .invalidValue
    return { r with options := ← setOption r.options option value, pending? := none }
  | some (.paths paths) => do
    if paths.any String.isEmpty then throw .invalidValue
    return { r with paths := r.paths ++ paths.reverse, pending? := none }

/-- Takes an option that needs a value. -/
def takeOption (r : Reading) (option : ValueOption) (value? : Option String) :
    Except CommandError Reading := do
  let r ← r.settle
  match value? with
  | some value => return { r with options := ← setOption r.options option value }
  | none => return { r with pending? := some (.option option none) }

/-- Takes an option that needs none. -/
def takeFlag (r : Reading) (flag : Flag) : Except CommandError Reading := do
  let r ← r.settle
  match flag with
  | .help => throw .help
  | .version => throw .version
  | .json => if r.json then throw .repeatedOption else return { r with json := true }

/-- Takes a word that is not the value of an option. -/
def takePath (r : Reading) (tool : Tool) (word : String) : Except CommandError Reading := do
  unless tool.takesPaths do throw .unknownArgument
  match r.pending? with
  | some (.paths paths) => return { r with pending? := some (.paths (word :: paths)) }
  | _ =>
    let r ← r.settle
    return { r with pending? := some (.paths [word]) }

/-- Takes a word that starts with no dash: the value that is waited for, or a path. -/
def takePlain (r : Reading) (tool : Tool) (word : String) : Except CommandError Reading :=
  match r.pending? with
  | some (.option option none) => return { r with pending? := some (.option option (some word)) }
  | _ => r.takePath tool word

/-- Takes the next word. -/
def step (tool : Tool) (r : Reading) (word : String) : Except CommandError Reading :=
  if r.ended then r.takePath tool word
  else
    match Word.ofString word with
    | .separator => return { r with ended := true }
    | .long name value? =>
      match longOption? tool name with
      | some (.inl option) => r.takeOption option value?
      | some (.inr flag) => if value?.isSome then throw .unneededValue else r.takeFlag flag
      | none => throw .unknownArgument
    | .short letter _ =>
      match shortOption? letter with
      | some flag => r.takeFlag flag
      | none => throw .unknownArgument
    | .plain word => r.takePlain tool word

end Reading

end CommandLine

/-- What a command line asks for. -/
structure Command where
  /-- The options given. -/
  options : Options
  /-- Whether reports are to be written as JSON. -/
  json : Bool
  /-- The paths in order. -/
  paths : List String
deriving DecidableEq, Repr

/-- Reads the words of a command line. -/
def Command.parse (tool : Tool) (words : List String) : Except CommandError Command := do
  let r ← words.foldlM (CommandLine.Reading.step tool) {}
  let r ← r.settle
  if tool.takesPaths && r.paths.isEmpty then throw .missingPath
  return ⟨r.options, r.json, r.paths⟩

end Mhtml
