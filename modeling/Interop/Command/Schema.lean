import Interop.Managed.Edit
import Interop.Text.Loose

namespace Interop.Command

open Text

/-- What an argument does each time it occurs. -/
inductive Action
  | set
  | append
  | setTrue
  | count
deriving DecidableEq, Repr

/-- What the value of an argument is read as. -/
inductive ValueKind
  | text
  | path
  | choice (names : List String)
  | size
  | index
  | edit
deriving DecidableEq, Repr

/-- An argument without a long and a short name stands by itself. -/
structure Arg where
  id : String
  long : Option String := none
  short : Option Char := none
  valueName : String := ""
  action : Action := .set
  kind : ValueKind := .text
  required : Bool := false
  default : Option String := none
  /-- Its value may start with a hyphen. -/
  hyphens : Bool := false
  /-- Its value may be a negative number. -/
  negatives : Bool := false
  help : String
deriving DecidableEq, Repr

structure Subcommand where
  name : String
  about : String
  args : List Arg
  epilogue : String
deriving DecidableEq, Repr

/-- One of the subcommands has to be given; without any arguments there is help. -/
structure CommandLine where
  name : String
  about : String
  subcommands : List Subcommand
deriving DecidableEq, Repr

def fileArg : Arg where
  id := "blob_path"
  valueName := "FILE"
  kind := .path
  required := true
  help := "Blob file to inspect as a section"

def textArg : Arg where
  id := "text"
  valueName := "TEXT"
  required := true
  help := "String contents (encoded as UTF-16 code units)"

def setArg : Arg where
  id := "set"
  long := some "set"
  valueName := "INDEX=UNIT"
  action := .append
  hyphens := true
  kind := .edit
  help := "Write a code unit (a character or U+XXXX); applied in order"

def getArg : Arg where
  id := "get"
  long := some "get"
  valueName := "INDEX"
  action := .append
  negatives := true
  kind := .index
  help := "Read a code unit after all writes"

def headArg : Arg where
  id := "head"
  long := some "head"
  valueName := "BYTES"
  default := some "64"
  kind := .size
  help := "Dump this many leading bytes (0 to skip)"

def jsonArg : Arg where
  id := "json"
  long := some "json"
  action := .setTrue
  help := "Output JSON"

def colorArg : Arg where
  id := "color"
  long := some "color"
  valueName := "WHEN"
  default := some "auto"
  kind := .choice ["auto", "always", "never"]
  help := "Colorize output"

def verboseArg : Arg where
  id := "verbose"
  short := some 'v'
  action := .count
  help := "Verbosity level (-v for debug logs, -vv for trace logs)"

inductive Verb
  | layout
  | blob
  | string
deriving DecidableEq, Repr

def Verb.command : Verb → Subcommand
  | .layout => {
      name := "layout"
      about := "Show the managed string layout native code assumes"
      args := [jsonArg, colorArg, verboseArg]
      epilogue :=
"EXAMPLES:
  kbridge layout           # offsets and sizes
  kbridge layout --json    # machine-readable" }
  | .blob => {
      name := "section"
      about := "Resolve a blob file as a section descriptor"
      args := [fileArg, headArg, jsonArg, colorArg, verboseArg]
      epilogue :=
"EXAMPLES:
  kbridge section pci.ids              # descriptor and first 64 bytes
  kbridge section pci.ids --head 0     # descriptor only
  kbridge section pci.ids --json" }
  | .string => {
      name := "string"
      about := "Apply code unit reads and writes to a managed string"
      args := [textArg, setArg, getArg, jsonArg, colorArg, verboseArg]
      epilogue :=
"EXAMPLES:
  kbridge string 'Hello World' --get 0 --get 11
  kbridge string 'Hello World     ' --set 6=E --set 7=a --set 8=r --set 9=t --set 10=h
  kbridge string 'abc' --set 1=U+263A --json

Out-of-range reads yield U+0000 and out-of-range writes are skipped." }

def commandLine : CommandLine where
  name := "kbridge"
  about := "Inspect managed string layouts and embedded binary sections"
  subcommands := [Verb.layout.command, Verb.blob.command, Verb.string.command]

def Verb.ofName? (name : String) : Option Verb :=
  if name = "layout" then some .layout
  else if name = "section" then some .blob
  else if name = "string" then some .string
  else none

inductive Color
  | auto
  | always
  | never
deriving DecidableEq, Repr

def Color.applies (terminal : Bool) : Color → Bool
  | .auto => terminal
  | .always => true
  | .never => false

end Interop.Command
