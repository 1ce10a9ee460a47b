/-!
# Files

What a program sees of the files around it: at each path a text, something that
is no text, or nothing. `FileTree` is a tree of files kept in memory, in which
every directory on the way to a file exists.
-/

namespace Mhtml

/-- What a path leads to. -/
inductive FileEntry where
  /-- No file; a directory is none either. -/
  | missing
  /-- A file whose bytes are not the UTF-8 form of a text. -/
  | notText
  /-- A file with this text. -/
  | text (content : String)
deriving DecidableEq, Repr

namespace FileEntry

/-- The entry for a file's bytes. -/
def ofBytes (bytes : ByteArray) : FileEntry :=
  match String.fromUTF8? bytes with
  | some content => text content
  | none => notText

/-- Whether there is a file. -/
def isFile (e : FileEntry) : Bool :=
  e != missing

/-- The text of a file that has one. -/
def text? : FileEntry → Option String
  | text content => some content
  | _ => none

end FileEntry

/-- The files by their paths. -/
abbrev Files := String → FileEntry

/-- Files in memory, each with the names that lead to it. -/
structure FileTree where
  /-- The files; of two in the same place the later one counts. -/
  files : List (List String × FileEntry)

namespace FileTree

/-- The names that a path goes through. -/
def components (path : String) : List String :=
  (path.splitOn "/").filter fun name => name != "" && name != "."

/-- The tree of files with these paths. -/
def ofList (files : List (String × FileEntry)) : FileTree :=
  ⟨files.map fun (path, entry) => (components path, entry)⟩

/-- Whether some file lies below a place. -/
def isDirectory (t : FileTree) (place : List String) : Bool :=
  place.isEmpty || t.files.any fun (names, _) => place.isPrefixOf names && place != names

/-- The place that one more step of a path leads to, if the place so far is a directory. -/
def enter? (t : FileTree) (place : List String) (name : String) : Option (List String) :=
  if !t.isDirectory place then none
  else if name == "" || name == "." then some place
  else if name == ".." then (if place.isEmpty then none else some place.dropLast)
  else some (place ++ [name])

/-- The greatest length of a path in bytes. -/
def maxPathLength : Nat := 4095

/-- What a relative path leads to. -/
def entry (t : FileTree) (path : String) : FileEntry :=
  if path.startsWith "/" || path.utf8ByteSize > maxPathLength then .missing
  else
    match (path.splitOn "/").foldlM t.enter? [] with
    | some place =>
      if t.isDirectory place then .missing else (t.files.reverse.lookup place).getD .missing
    | none => .missing

end FileTree

end Mhtml
