import FrameTransition.Path
import FrameTransition.Text.Utf8

/-!
# Files and directories

A tree of named entries with a working directory in it. Reading and creating directories walk a path
part by part, so a refusal names the first part that fails: a part sought inside a file, a missing
part, a name that is too long. The causes are those the system reports, with its numbers.
-/

namespace FrameTransition

/-- Why a file operation failed. -/
inductive FileError where
  | notFound
  | alreadyExists
  | notDirectory
  | isDirectory
  | nameTooLong
  /-- The content is no UTF-8 text. -/
  | notText
  /-- A path with a NUL character reaches no file. -/
  | nulInName
  /-- A program argument with a NUL character reaches no program. -/
  | nulInArgument
  /-- Any other cause, in its own words. -/
  | other (description : String)
  deriving DecidableEq

/-- The cause as it is reported. -/
def FileError.message : FileError → String
  | notFound => "No such file or directory (os error 2)"
  | alreadyExists => "File exists (os error 17)"
  | notDirectory => "Not a directory (os error 20)"
  | isDirectory => "Is a directory (os error 21)"
  | nameTooLong => "File name too long (os error 36)"
  | notText => "stream did not contain valid UTF-8"
  | nulInName => "file name contained an unexpected NUL byte"
  | nulInArgument => "nul byte found in provided data"
  | other description => description

/-- The name of an entry in its directory. -/
abbrev Name := List Char

/-- What stands at a place. -/
inductive Entry where
  | file (content : List UInt8)
  | directory
  deriving DecidableEq

/-- A place: the names from the root to it, the last one first. -/
abbrev Place := List Name

/-- Entries at their places. The root and the working directory need not be listed. -/
structure FileSystem where
  entries : List (Place × Entry)

namespace FileSystem

/-- Where relative paths start. -/
def workingDirectory : Place := [['w', 'o', 'r', 'k']]

/-- A file system with an empty working directory. -/
def empty : FileSystem := ⟨[]⟩

/-- The entry at a place. A later entry hides an earlier one. -/
def entry? (fs : FileSystem) (place : Place) : Option Entry :=
  if place = [] ∨ place = workingDirectory then some .directory
  else fs.entries.lookup place

/-- The same tree with an entry put at a place. -/
def insert (fs : FileSystem) (place : Place) (entry : Entry) : FileSystem :=
  ⟨(place, entry) :: fs.entries⟩

/-- The longest name of an entry, in bytes. -/
def maxName : Nat := 255

/-- The longest path, in bytes, its terminator included. -/
def maxPath : Nat := 4096

/-- Follows the pieces of a path from an entry at a place. Whatever comes after a file, were it only
a closing slash, asks the file to be a directory. -/
def walk (fs : FileSystem) (place : Place) (entry : Entry) :
    List (List Char) → Except FileError (Place × Entry)
  | [] => .ok (place, entry)
  | piece :: pieces =>
    match entry with
    | .file _ => .error .notDirectory
    | .directory =>
      if piece = [] ∨ piece = ['.'] then walk fs place .directory pieces
      else if piece = ['.', '.'] then walk fs place.tail .directory pieces
      else if maxName < Utf8.size piece then .error .nameTooLong
      else
        match fs.entry? (piece :: place) with
        | none => .error .notFound
        | some next => walk fs (piece :: place) next pieces

/-- Refuses what is no path at all, before any entry is looked at. -/
def checkPath (path : Path) : Except FileError Unit :=
  if '\x00' ∈ path.text then .error .nulInName
  else if path.text = [] then .error .notFound
  else if maxPath ≤ Utf8.size path.text then .error .nameTooLong
  else .ok ()

/-- Where a path starts. -/
def startOf (path : Path) : Place :=
  if path.isAbsolute then [] else workingDirectory

/-- The place and the entry a path leads to. -/
def resolve (fs : FileSystem) (path : Path) : Except FileError (Place × Entry) := do
  checkPath path
  fs.walk (startOf path) .directory (Text.splitOn '/' path.text)

/-- The content of a file. -/
def read (fs : FileSystem) (path : Path) : Except FileError (List UInt8) := do
  match (← fs.resolve path).2 with
  | .file content => return content
  | .directory => throw .isDirectory

/-- Makes a file, or writes over one, in an existing directory. -/
def write (fs : FileSystem) (path : Path) (content : List UInt8) : Except FileError FileSystem := do
  checkPath path
  match (Text.splitOn '/' path.text).reverse with
  | [] => throw .notFound
  | last :: before =>
    match ← fs.walk (startOf path) .directory before.reverse with
    | (_, .file _) => throw .notDirectory
    | (place, .directory) =>
      if last = [] ∨ last = ['.'] ∨ last = ['.', '.'] then throw .isDirectory
      else if maxName < Utf8.size last then throw .nameTooLong
      else if fs.entry? (last :: place) = some .directory then throw .isDirectory
      else return fs.insert (last :: place) (.file content)

/-- A path leads to a directory. -/
def isDirectory (fs : FileSystem) (path : Path) : Bool :=
  match fs.resolve path with
  | .ok (_, .directory) => true
  | _ => false

/-- Anything stands at the end of a path. -/
def exists? (fs : FileSystem) (path : Path) : Bool :=
  (fs.resolve path).toOption.isSome

/-- Creates one directory in an existing one. -/
def createDirectory (fs : FileSystem) (path : Path) : Except FileError FileSystem := do
  checkPath path
  let pieces := (Text.splitOn '/' path.text).reverse.dropWhile (· = [])
  match pieces with
  | [] => throw .alreadyExists
  | last :: before =>
    match ← fs.walk (startOf path) .directory before.reverse with
    | (_, .file _) => throw .notDirectory
    | (place, .directory) =>
      if last = ['.'] ∨ last = ['.', '.'] then throw .alreadyExists
      else if maxName < Utf8.size last then throw .nameTooLong
      else if (fs.entry? (last :: place)).isSome then throw .alreadyExists
      else return fs.insert (last :: place) .directory

/-- Creates a directory and the missing ones above it, at most `depth` levels up. A directory that is
there already is as good as a new one. -/
def createDirectoriesUpTo (depth : Nat) (fs : FileSystem) (path : Path) : Except FileError FileSystem :=
  if path.text = [] then .ok fs
  else
    match fs.createDirectory path with
    | .ok created => .ok created
    | .error .notFound =>
      match depth, path.parent? with
      | depth + 1, some parent => do
        let above ← createDirectoriesUpTo depth fs parent
        match above.createDirectory path with
        | .ok created => .ok created
        | .error cause => if above.isDirectory path then .ok above else .error cause
      | _, _ => .error (.other "failed to create whole tree")
    | .error cause => if fs.isDirectory path then .ok fs else .error cause

/-- Creates a directory and the missing ones above it. A path has fewer levels than characters. -/
def createDirectories (fs : FileSystem) (path : Path) : Except FileError FileSystem :=
  createDirectoriesUpTo path.text.length fs path

/-- Makes every level of a place a directory. -/
def insertDirectories (fs : FileSystem) : Place → FileSystem
  | [] => fs
  | name :: above => (fs.insertDirectories above).insert (name :: above) .directory

/-- Puts a file at a path, with the directories above it. A path that ends in a slash is a directory
itself. Meant for building a tree: what is in the way is replaced. -/
def store (fs : FileSystem) (path : Path) (content : List UInt8) : FileSystem :=
  let names := (Text.splitOn '/' path.text).filter fun name => name ≠ [] ∧ name ≠ ['.']
  let place := names.reverse ++ startOf path
  if path.text.getLast? = some '/' then fs.insertDirectories place
  else (fs.insertDirectories place.tail).insert place (.file content)

end FileSystem

/-- The text of a file's bytes. -/
def textOfBytes (bytes : List UInt8) : Except FileError (List Char) :=
  (Utf8.decode? bytes).mapError fun _ => .notText

end FrameTransition
