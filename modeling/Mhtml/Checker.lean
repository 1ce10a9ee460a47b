import Mhtml.Json.Printer
import Mhtml.Editor.Wire
import Mhtml.Settings.Basic

/-!
# The checker

The program that checks files. A run goes through the paths of the command line: it
reads the file, validates it, notes whether anything was found and writes the report,
one line for each diagnostic or one JSON object for the file. A file that cannot be
read ends the run at once, the reports of earlier files being written already. The
exit code is zero if no file had a finding. The JSON is that of section H of the
specification.
-/

namespace Mhtml

/-- What a run of a program leaves behind. -/
structure Run where
  /-- The exit code. -/
  exitCode : Nat
  /-- The lines written. -/
  lines : List String := []
  /-- What went wrong, if the run failed. -/
  error? : Option String := none
deriving DecidableEq, Repr

namespace Checker

/-- A diagnostic as a line of text; lines and columns are counted from one. -/
def diagnosticLine (path : String) (d : Diagnostic) : String :=
  s!"{path}:{d.range.start.line + 1}:{d.range.start.character + 1}: {d.severity.word}: {d.message}"

/-- How far a run over files has come. -/
structure Progress where
  /-- Whether all files so far are free of findings. -/
  clean : Bool := true
  /-- The lines written so far. -/
  written : Array String := #[]

namespace Progress

/-- Writes a line. -/
def write (p : Progress) (line : String) : Progress :=
  { p with written := p.written.push line }

/-- Takes in the report of a file: notes whether it has findings, and writes it. -/
def take (p : Progress) (json : Bool) (path : String) (b : Batch) : Progress :=
  let p := { p with clean := p.clean && b.diagnostics.isEmpty }
  if json then p.write b.toJson.compact
  else b.diagnostics.foldl (fun p d => p.write (diagnosticLine path d)) p

/-- What the run leaves behind if it ends here: without an error, or with one. -/
def finish (p : Progress) : Option String → Run
  | none => { exitCode := if p.clean then 0 else 1, lines := p.written.toList }
  | some error => { exitCode := 1, lines := p.written.toList, error? := some error }

end Progress

/-- Goes on with a run: validates the files at the paths left one after the other and writes what is
found. A file without a text ends the run. -/
def goOn (files : Files) (limit : Nat) (json : Bool) (p : Progress) : List String → Run
  | [] => p.finish none
  | path :: rest =>
    match (files path).text? with
    | none => p.finish (some ("Failed to read " ++ path))
    | some text =>
      let (batch, _) := Batch.collect path 0 limit text.toList
      goOn files limit json (p.take json path batch) rest

/-- Validates files and reports them. -/
def check (files : Files) (limit : Nat) (json : Bool) (paths : List String) : Run :=
  goOn files limit json {} paths

/-- What a program does whose command line asks for no run. -/
def declineRun (tool : Tool) : CommandError → Run
  | .version => { exitCode := 0, lines := [tool.versionLine] }
  | .help => { exitCode := 0 }
  | _ => { exitCode := 2 }

/-- Runs the checker on a command line. -/
def run (files : Files) (userFile? : Option String) (words : List String) : Run :=
  match Command.parse .checker words with
  | .error e => declineRun .checker e
  | .ok command =>
    match Settings.load files userFile? command.options with
    | .error e => { exitCode := 1, error? := some e.message }
    | .ok settings => check files settings.maxDepth command.json command.paths

end Checker

/-- The session that the server starts with on a command line, or what it does instead. -/
def startServer (files : Files) (userFile? : Option String) (words : List String) :
    Except Run Session :=
  match Command.parse .server words with
  | .error e => .error (Checker.declineRun .server e)
  | .ok command =>
    match Settings.load files userFile? command.options with
    | .error e => .error { exitCode := 1, error? := some e.message }
    | .ok settings => .ok { limit := settings.maxDepth }

end Mhtml
