import Mhtml.Checker
import Mhtml.Editor.Frame
import Mhtml.Json.Parser

/-!
# The command line

`check` validates files and `serve` talks to an editor over standard input and
output. Everything is decided elsewhere; here files are read and lines written.
-/

namespace Mhtml.Main

/-- What a path leads to on disk. -/
def readEntry (path : String) : IO FileEntry := do
  try
    return .ofBytes (← IO.FS.readBinFile path)
  catch _ =>
    return .missing

/-- The files at some paths, as they are now. -/
def readFiles (paths : List String) : IO Files := do
  let entries ← paths.mapM fun path => return (path, ← readEntry path)
  return fun path => (entries.lookup path).getD .missing

/-- The user's own settings file. -/
def userFile? : IO (Option String) := do
  match ← IO.getEnv "XDG_CONFIG_HOME" with
  | some directory =>
    if directory.startsWith "/" then return some (Settings.userFileIn directory)
  | none => pure ()
  return (← IO.getEnv "HOME").map fun home => Settings.userFileIn (home ++ "/.config")

/-- The files that a command line makes a program read. -/
def filesOf (tool : Tool) (userFile? : Option String) (words : List String) : List String :=
  match Command.parse tool words with
  | .ok command => userFile?.toList ++ command.options.config?.toList ++ command.paths
  | .error _ => []

/-- Writes what a run leaves behind. -/
def conclude (run : Run) : IO UInt32 := do
  for line in run.lines do
    IO.println line
  if let some error := run.error? then
    IO.eprintln ("Error: " ++ error)
  return run.exitCode.toUInt32

/-- Runs the checker. -/
def check (words : List String) : IO UInt32 := do
  let userFile? ← userFile?
  let files ← readFiles (filesOf .checker userFile? words)
  conclude (Checker.run files userFile? words)

/-- Reads so many bytes, or fewer at the end of the input. -/
partial def readBytes (input : IO.FS.Stream) (count : Nat) (read : ByteArray) : IO ByteArray := do
  if count ≤ read.size then return read
  let more ← input.read (count - read.size).toUSize
  if more.isEmpty then return read
  readBytes input count (read ++ more)

/-- Reads header lines up to the empty one; the length of the content if it was told, and nothing
at the end of the input. -/
partial def readHeader (input : IO.FS.Stream) (length? : Option Nat) :
    IO (Option (Option Nat)) := do
  let line ← input.getLine
  if line.isEmpty then return none
  if line.trimAscii.isEmpty then return some length?
  readHeader input ((Frame.contentLength? line).or length?)

/-- Answers frames until the input or the session ends. -/
partial def serveFrom (input output : IO.FS.Stream) (session : Session) : IO Unit := do
  let some length? ← readHeader input none | return
  let content ← readBytes input (length?.getD 0) .empty
  let value? := (String.fromUTF8? content).bind Json.parse?
  let incoming := value?.elim .garbled Incoming.ofJson
  let turn := session.take incoming
  for m in turn.messages incoming do
    output.putStr (Frame.ofContent m.compact)
  output.flush
  unless turn.session.stage = .exited do
    serveFrom input output turn.session

/-- Runs the server. -/
def serve (words : List String) : IO UInt32 := do
  let userFile? ← userFile?
  let files ← readFiles (filesOf .server userFile? words)
  match startServer files userFile? words with
  | .error run => conclude run
  | .ok session =>
    serveFrom (← IO.getStdin) (← IO.getStdout) session
    return 0

end Mhtml.Main

/-- Runs the program that the first word names. -/
def main (args : List String) : IO UInt32 := do
  match args with
  | "check" :: words => Mhtml.Main.check words
  | "serve" :: words => Mhtml.Main.serve words
  | _ =>
    IO.eprintln "usage: mhtml check [--json] [OPTION ...] PATH ...\n       mhtml serve [OPTION ...]"
    return 2
