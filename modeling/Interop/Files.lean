import Interop.Text.Loose
import Interop.Text.Split

namespace Interop

open Text

inductive LoadFailure
  | zeroByte
  | notFound
  | notDirectory
  | isDirectory
  | nameTooLong
  | other (text : String)
deriving DecidableEq, Repr

def LoadFailure.message : LoadFailure → String
  | .zeroByte => "file name contained an unexpected NUL byte"
  | .notFound => "No such file or directory (os error 2)"
  | .notDirectory => "Not a directory (os error 20)"
  | .isDirectory => "Is a directory (os error 21)"
  | .nameTooLong => "File name too long (os error 36)"
  | .other text => text

/-- The current directory: directories and files under their paths from it. -/
structure Files where
  directories : List (List Loose)
  files : List (List Loose × List UInt8)
deriving Repr

namespace Files

def slash : Glyph := .char '/'

def isIdle (name : Loose) : Bool := name.isEmpty || name == [.char '.']

def parent : Loose := [.char '.', .char '.']

/-- Where one more name of a path leads. -/
def follow (path : List Loose) (name : Loose) : List Loose :=
  if isIdle name then path else if name = parent then path.dropLast else path ++ [name]

def stations (path : Loose) : List (List Loose) :=
  let names := splitAll slash path
  (List.range' 1 names.length).map fun n => (names.take n).foldl follow []

/-- Directories that a listed one lies in need not be listed. The last file of a name counts. -/
def ofEntries (directories : List Loose) (files : List (Loose × List UInt8)) : Files where
  directories := directories.flatMap stations
  files := files.reverse.map fun (path, content) =>
    ((splitAll slash path).foldl follow [], content)

/-- Where a path has led so far. Nothing is known of the directories above the current one but that
they are there. -/
inductive Place
  | above
  | directory (path : List Loose)
  | file (content : List UInt8)

def maxNameLength : Nat := 255

def maxPathLength : Nat := 4095

def checkName (name : Loose) : Except LoadFailure Unit :=
  if name.bytes.length ≤ maxNameLength then .ok () else .error .nameTooLong

def lookUp (fs : Files) (path : List Loose) : Except LoadFailure Place :=
  if fs.directories.any (path.isPrefixOf ·) then .ok (.directory path)
  else match fs.files.find? (·.1 == path) with
    | some (_, content) => .ok (.file content)
    | none => .error .notFound

def enter (fs : Files) (place : Place) (name : Loose) : Except LoadFailure Place :=
  match place with
  | .file _ => .error .notDirectory
  | .above => do
    if isIdle name ∨ name = parent then return .above
    checkName name
    throw .notFound
  | .directory path => do
    if isIdle name then return .directory path
    if name = parent then
      return if path.isEmpty then .above else .directory path.dropLast
    checkName name
    fs.lookUp (path ++ [name])

def walk (fs : Files) (path : Loose) : Except LoadFailure Place :=
  match splitAll slash path with
  | [] :: [] => .error .notFound
  | [] :: names => names.foldlM fs.enter .above
  | names => names.foldlM fs.enter (.directory [])

def load (fs : Files) (path : Loose) : Except LoadFailure (List UInt8) := do
  if .char '\x00' ∈ path then throw .zeroByte
  if maxPathLength < path.bytes.length then throw .nameTooLong
  match ← fs.walk path with
  | .file content => return content
  | .directory _ | .above => throw .isDirectory

end Files

end Interop
